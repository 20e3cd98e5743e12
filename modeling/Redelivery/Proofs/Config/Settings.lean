import Redelivery.Proofs.Delivery.Invocation
import Redelivery.Proofs.Config.Variables

/-! Settings read from the environment. Each way in which the variables can be at fault is an
offence, and offences are looked for in a fixed order: the name of the endpoint is missing, then
a variable cannot be read, field by field, then a value is one no endpoint can run with. Reading
ends in the error of the first offence committed. Where there is none the settings are what the
variables tell, with the defaults for those that are not set. Settings that are written out are
read back. -/
namespace Redelivery

structure Offence where
  committed : Variables → Prop
  reported : ConfigError → Prop

namespace Offence

def missing (name : String) : Offence :=
  ⟨fun vars => vars.Unset name, fun e => e = .missing name⟩

def unreadable {α : Type} (name : String) (denotes : List Char → α → Prop) : Offence :=
  ⟨fun vars => ¬vars.Unset name ∧ ∀ a, ¬vars.Tells name denotes a,
    fun e => ∃ details, e = .unreadable name details⟩

def invalid (setting : String) (committed : Variables → Prop) : Offence :=
  ⟨committed, fun e => ∃ details, e = .invalid setting details⟩

def blank (setting name : String) : Offence :=
  invalid setting fun vars =>
    ∃ value, vars.Holds name value ∧ ∀ c ∈ value.toList, Text.isBlank c = true

end Offence

/-- A reading ends in the error of the first of some offences that the variables commit, or, where
they commit none, in a value of some kind. -/
def Judged {α : Type} (vars : Variables) (offences : List Offence) (reading : Except ConfigError α)
    (kind : α → Prop) : Prop :=
  match reading with
  | .ok a => (∀ o ∈ offences, ¬o.committed vars) ∧ kind a
  | .error e => ∃ before o after, offences = before ++ o :: after ∧
      (∀ p ∈ before, ¬p.committed vars) ∧ o.committed vars ∧ o.reported e

namespace Judged
variable {α β : Type} {vars : Variables} {o : Offence} {offences : List Offence}
  {reading : Except ConfigError α} {next : α → Except ConfigError β} {kind : α → Prop}
  {kind' : β → Prop} {e : ConfigError}

theorem first (committed : o.committed vars) (reported : o.reported e) :
    Judged vars (o :: offences) (.error e : Except ConfigError α) kind :=
  ⟨[], o, offences, rfl, nofun, committed, reported⟩

theorem skip (innocent : ¬o.committed vars) (judged : Judged vars offences reading kind) :
    Judged vars (o :: offences) reading kind := by
  cases reading with
  | ok a => exact ⟨List.forall_mem_cons.2 ⟨innocent, judged.1⟩, judged.2⟩
  | error e =>
    obtain ⟨before, p, after, rfl, innocents, found⟩ := judged
    exact ⟨o :: before, p, after, rfl, List.forall_mem_cons.2 ⟨innocent, innocents⟩, found⟩

theorem bind (judged : Judged vars [o] reading kind)
    (follows : ∀ a, kind a → Judged vars offences (next a) kind') :
    Judged vars (o :: offences) (reading >>= next) kind' := by
  cases reading with
  | ok a => exact skip (judged.1 o List.mem_cons_self) (follows a judged.2)
  | error e =>
    obtain ⟨before, p, after, whole, -, found⟩ := judged
    cases before with
    | nil =>
      obtain ⟨rfl, -⟩ := List.cons.inj whole
      exact first found.1 found.2
    | cons q before => simp at whole

theorem required (name : String) :
    Judged vars [.missing name] (vars.required name) (vars.Holds name) := by
  rw [Variables.required]
  cases text : vars.text? name with
  | none => exact first (Variables.text?_eq_none.1 text) rfl
  | some value =>
    have holds := Variables.text?_eq_some.1 text
    exact skip (fun unset => unset value holds) ⟨nofun, holds⟩

theorem read {reader : List Char → Except String α} {denotes : List Char → α → Prop}
    (takes : Reader.Takes reader denotes) (name : String) (default : α) :
    Judged vars [.unreadable name denotes] (vars.read name default reader)
      (vars.Gives name denotes default) := by
  cases read : vars.read name default reader with
  | ok a =>
    have gives := takes.read_eq_ok.1 read
    exact skip (fun ⟨set, silent⟩ => gives.elim (silent a) fun unset => set unset.1) ⟨nofun, gives⟩
  | error e =>
    have unread (a : α) : ¬vars.Gives name denotes default a := by
      rw [← takes.read_eq_ok, read]
      nofun
    refine first ⟨fun unset => ?_, fun a told => ?_⟩ (Reader.read_eq_error read)
    · exact unread default (.inr ⟨unset, rfl⟩)
    · exact unread a (.inl told)

end Judged

namespace Settings

def preset : Settings := {}

/-- What the variables say about each setting. -/
structure Told (vars : Variables) (s : Settings) : Prop where
  address : vars.Holds "ENDPOINT_NAME" s.address
  errorQueue : vars.Holds "ERROR_QUEUE" s.errorQueue ∨
    vars.Unset "ERROR_QUEUE" ∧ s.errorQueue = preset.errorQueue
  immediateRetries : vars.Gives "FLR_MAX_RETRIES" Denotes.word32 preset.immediateRetries
    s.immediateRetries
  enabled : vars.Gives "SLR_ENABLED" Denotes.bool preset.delayed.enabled s.delayed.enabled
  retries : vars.Gives "SLR_NUMBER_OF_RETRIES" Denotes.word32 preset.delayed.retries
    s.delayed.retries
  increase : vars.Gives "SLR_TIME_INCREASE_SECS" Denotes.seconds preset.delayed.increase.seconds
    s.delayed.increase.seconds
  whole : s.delayed.increase.nanos = 0
  mode : vars.Gives "TRANSPORT_TRANSACTION_MODE" Denotes.mode preset.mode s.mode
  concurrency : vars.Gives "MAX_CONCURRENCY" Denotes.word64 preset.concurrency s.concurrency
  capacity : vars.Gives "FAILURE_STORAGE_CAPACITY" Denotes.word64 preset.capacity s.capacity
  sendOnly : vars.Gives "SEND_ONLY" Denotes.bool preset.sendOnly s.sendOnly

/-- The faults that the settings of an environment can have, in the order in which they are
looked for. -/
def offences : List Offence :=
  [.missing "ENDPOINT_NAME",
   .unreadable "FLR_MAX_RETRIES" Denotes.word32,
   .unreadable "SLR_ENABLED" Denotes.bool,
   .unreadable "SLR_NUMBER_OF_RETRIES" Denotes.word32,
   .unreadable "SLR_TIME_INCREASE_SECS" Denotes.seconds,
   .unreadable "TRANSPORT_TRANSACTION_MODE" Denotes.mode,
   .unreadable "MAX_CONCURRENCY" Denotes.word64,
   .unreadable "FAILURE_STORAGE_CAPACITY" Denotes.word64,
   .unreadable "SEND_ONLY" Denotes.bool,
   .blank "local_address" "ENDPOINT_NAME",
   .blank "error_queue" "ERROR_QUEUE",
   .invalid "max_concurrency" fun vars => vars.Tells "MAX_CONCURRENCY" Denotes.word64 0]

theorem orDefault_eq_iff {vars : Variables} {name default value : String} :
    vars.orDefault name default = value ↔
      vars.Holds name value ∨ vars.Unset name ∧ value = default := by
  rw [Variables.orDefault]
  cases text : vars.text? name with
  | none =>
    have unset := Variables.text?_eq_none.1 text
    rw [or_iff_right (unset value), and_iff_right unset, Option.getD_none, eq_comm]
  | some held =>
    have holds := Variables.text?_eq_some.1 text
    rw [or_iff_left fun unset => unset.1 held holds, Option.getD_some]
    exact ⟨fun same => same ▸ holds, holds.unique⟩

theorem seconds_within {vars : Variables} {n : Nat}
    (gives : vars.Gives "SLR_TIME_INCREASE_SECS" Denotes.seconds
      preset.delayed.increase.seconds n) : n ≤ Whole.max64 := by
  rcases gives with ⟨_, _, _, _, denoted⟩ | ⟨_, rfl⟩
  · exact denoted.2
  · decide

theorem ofSeconds_within {n : Nat} (within : n ≤ Whole.max64) :
    (Duration.ofSeconds n).seconds = n ∧ (Duration.ofSeconds n).nanos = 0 := by
  have small : n < 18446744073709551616 := Nat.lt_succ_of_le within
  rw [Duration.ofSeconds, dif_pos small]
  exact ⟨rfl, rfl⟩

theorem ofSeconds_seconds {d : Duration} (whole : d.nanos = 0) : .ofSeconds d.seconds = d := by
  obtain ⟨seconds, nanos, small, _⟩ := d
  cases whole
  rw [Duration.ofSeconds, dif_pos small]

section told
variable {vars : Variables} {s : Settings}

theorem Told.nameless_iff (told : Told vars s) :
    (Offence.blank "local_address" "ENDPOINT_NAME").committed vars ↔
      Text.isBlankText s.address = true := by
  rw [Text.isBlankText_iff]
  constructor
  · rintro ⟨value, holds, blank⟩
    rwa [told.address.unique holds]
  · exact fun blank => ⟨_, told.address, blank⟩

theorem Told.queueless_iff (told : Told vars s) :
    (Offence.blank "error_queue" "ERROR_QUEUE").committed vars ↔
      Text.isBlankText s.errorQueue = true := by
  rcases told.errorQueue with named | ⟨unset, preset⟩
  · rw [Text.isBlankText_iff]
    constructor
    · rintro ⟨value, holds, blank⟩
      rwa [named.unique holds]
    · exact fun blank => ⟨_, named, blank⟩
  · rw [preset]
    exact iff_of_false (fun ⟨value, holds, _⟩ => unset value holds) (by decide)

theorem Told.idle_iff (told : Told vars s) :
    vars.Tells "MAX_CONCURRENCY" Denotes.word64 0 ↔ s.concurrency = 0 := by
  constructor
  · exact fun zero => Reader.takes_word64.gives_unique told.concurrency (.inl zero)
  · intro idle
    rcases told.concurrency with told | ⟨_, preset⟩
    · exact idle ▸ told
    · rw [idle] at preset
      cases preset

theorem Told.judged (told : Told vars s) :
    Judged vars
      [.blank "local_address" "ENDPOINT_NAME", .blank "error_queue" "ERROR_QUEUE",
       .invalid "max_concurrency" fun vars => vars.Tells "MAX_CONCURRENCY" Denotes.word64 0]
      (do s.validate; return s) fun s => Told vars s ∧ s.validate = .ok () := by
  by_cases nameless : Text.isBlankText s.address = true
  · rw [validate, if_pos nameless]
    exact .first (told.nameless_iff.2 nameless) ⟨_, rfl⟩
  refine .skip (mt told.nameless_iff.1 nameless) ?_
  by_cases queueless : Text.isBlankText s.errorQueue = true
  · rw [validate, if_neg nameless, if_pos queueless]
    exact .first (told.queueless_iff.2 queueless) ⟨_, rfl⟩
  refine .skip (mt told.queueless_iff.1 queueless) ?_
  by_cases idle : s.concurrency = 0
  · rw [validate, if_neg nameless, if_neg queueless, if_pos idle]
    exact .first (told.idle_iff.2 idle) ⟨_, rfl⟩
  refine .skip (mt told.idle_iff.1 idle) ?_
  have valid : s.validate = .ok () := by
    rw [validate, if_neg nameless, if_neg queueless, if_neg idle]
  rw [valid]
  exact ⟨nofun, told, valid⟩

end told

theorem judged_ofVariables (vars : Variables) :
    Judged vars offences (ofVariables vars) fun s => Told vars s ∧ s.validate = .ok () := by
  refine (Judged.required "ENDPOINT_NAME").bind fun address held => ?_
  refine (Judged.read Reader.takes_word32 ..).bind fun immediateRetries flr => ?_
  refine (Judged.read Reader.takes_bool ..).bind fun enabled slr => ?_
  refine (Judged.read Reader.takes_word32 ..).bind fun retries number => ?_
  refine (Judged.read Reader.takes_seconds ..).bind fun increase seconds => ?_
  refine (Judged.read Reader.takes_mode ..).bind fun mode transaction => ?_
  refine (Judged.read Reader.takes_word64 ..).bind fun concurrency inFlight => ?_
  refine (Judged.read Reader.takes_word64 ..).bind fun capacity storage => ?_
  refine (Judged.read Reader.takes_bool ..).bind fun sendOnly sends => ?_
  have increased := ofSeconds_within (seconds_within seconds)
  refine Told.judged ⟨held, orDefault_eq_iff.1 rfl, flr, slr, number, ?_, increased.2, transaction,
    inFlight, storage, sends⟩
  rw [increased.1]
  exact seconds

theorem bind_of_ok {α β : Type} {reading : Except ConfigError α} {a : α}
    (read : reading = .ok a) (next : α → Except ConfigError β) : reading >>= next = next a := by
  rw [read]
  rfl

theorem Told.ofVariables {vars : Variables} {s : Settings} (told : Told vars s)
    (valid : s.validate = .ok ()) : ofVariables vars = .ok s := by
  have name : vars.required "ENDPOINT_NAME" = .ok s.address := by
    rw [Variables.required, Variables.text?_eq_some.2 told.address]
  have queue : vars.orDefault "ERROR_QUEUE" preset.errorQueue = s.errorQueue :=
    orDefault_eq_iff.2 told.errorQueue
  refine (bind_of_ok name _).trans ?_
  refine (bind_of_ok (Reader.takes_word32.read_eq_ok.2 told.immediateRetries) _).trans ?_
  refine (bind_of_ok (Reader.takes_bool.read_eq_ok.2 told.enabled) _).trans ?_
  refine (bind_of_ok (Reader.takes_word32.read_eq_ok.2 told.retries) _).trans ?_
  refine (bind_of_ok (Reader.takes_seconds.read_eq_ok.2 told.increase) _).trans ?_
  refine (bind_of_ok (Reader.takes_mode.read_eq_ok.2 told.mode) _).trans ?_
  refine (bind_of_ok (Reader.takes_word64.read_eq_ok.2 told.concurrency) _).trans ?_
  refine (bind_of_ok (Reader.takes_word64.read_eq_ok.2 told.capacity) _).trans ?_
  refine (bind_of_ok (Reader.takes_bool.read_eq_ok.2 told.sendOnly) _).trans ?_
  have same : { s with
      errorQueue := vars.orDefault "ERROR_QUEUE" preset.errorQueue,
      delayed := { s.delayed with increase := .ofSeconds s.delayed.increase.seconds } } = s := by
    rw [queue, ofSeconds_seconds told.whole]
  exact (congrArg (fun s : Settings => do s.validate; return s) same).trans (bind_of_ok valid _)

def enclosed (around : List Char × List Char) (core : List Char) : Bytes :=
  Text.utf8 (String.ofList (around.1 ++ core ++ around.2))

def environment (s : Settings) (around : String → List Char × List Char) : Variables :=
  [("ENDPOINT_NAME", Text.utf8 s.address), ("ERROR_QUEUE", Text.utf8 s.errorQueue)] ++
  [("FLR_MAX_RETRIES", Whole.decimal s.immediateRetries.toNat),
   ("SLR_ENABLED", (if s.delayed.enabled then "true" else "false").toList),
   ("SLR_NUMBER_OF_RETRIES", Whole.decimal s.delayed.retries.toNat),
   ("SLR_TIME_INCREASE_SECS", Whole.decimal s.delayed.increase.seconds),
   ("TRANSPORT_TRANSACTION_MODE", s.mode.name.toList),
   ("MAX_CONCURRENCY", Whole.decimal s.concurrency.toNat),
   ("FAILURE_STORAGE_CAPACITY", Whole.decimal s.capacity.toNat),
   ("SEND_ONLY", (if s.sendOnly then "true" else "false").toList)].map
    fun (name, core) => (name, enclosed (around name) core)

section written
variable {s : Settings} {around : String → List Char × List Char}

def Spaced (around : String → List Char × List Char) : Prop :=
  ∀ name, ∀ c ∈ (around name).1 ++ (around name).2, Text.isBlank c = true

theorem Spaced.gives {α : Type} {denotes : List Char → α → Prop} {default a : α} {vars : Variables}
    {name : String} {core : List Char} (spaced : Spaced around)
    (written : vars.lookup name = some (enclosed (around name) core)) (denoted : denotes core a) :
    vars.Gives name denotes default a := by
  refine .inl ⟨_, core, written, ⟨(around name).1, (around name).2, ?_, ?_, ?_⟩, denoted⟩
  · exact String.toList_ofList
  · exact fun c member => spaced name c (List.mem_append_left _ member)
  · exact fun c member => spaced name c (List.mem_append_right _ member)

theorem denotes_bool (b : Bool) : Denotes.bool (if b then "true" else "false").toList b := by
  cases b <;> rfl

theorem told_environment (spaced : Spaced around) (whole : s.delayed.increase.nanos = 0) :
    Told (s.environment around) s where
  address := rfl
  errorQueue := .inl rfl
  immediateRetries := spaced.gives rfl (Whole.spells_decimal _)
  enabled := spaced.gives rfl (denotes_bool _)
  retries := spaced.gives rfl (Whole.spells_decimal _)
  increase := spaced.gives rfl
    ⟨Whole.spells_decimal _, Nat.le_of_lt_succ s.delayed.increase.seconds_lt⟩
  whole := whole
  mode := spaced.gives rfl rfl
  concurrency := spaced.gives rfl (Whole.spells_decimal _)
  capacity := spaced.gives rfl (Whole.spells_decimal _)
  sendOnly := spaced.gives rfl (denotes_bool _)

end written

theorem exists_build_iff {vars : Variables} {s : Settings} (told : Told vars s)
    (valid : s.validate = .ok ()) (given : Option DelayPolicy) (own : List Stage) :
    (∃ p, ReceivePipeline.build s given own = .ok p) ↔
      ¬vars.Tells "SEND_ONLY" Denotes.bool true := by
  cases only : s.sendOnly with
  | true =>
    refine iff_of_false ?_ fun silent => ?_
    · rintro ⟨p, built⟩
      rw [ReceivePipeline.build, only] at built
      cases built
    · rcases told.sendOnly with told | ⟨_, preset⟩
      · exact silent (only ▸ told)
      · rw [only] at preset
        cases preset
  | false =>
    refine iff_of_true ⟨_, ReceivePipeline.build_ok only valid given own⟩ fun sends => ?_
    rw [Reader.takes_bool.gives_unique told.sendOnly (.inl sends)] at only
    cases only

/-- Settings are read exactly if the variables commit no offence. They are what the variables
tell, with the defaults for what is not set, they are valid, and a pipeline can be built from them
unless the endpoint only sends. Otherwise the error is that of the first offence. Valid settings
with an increase of whole seconds are what is read from the variables they are written to, with
any white space around the values. -/
theorem settings_from_environment :
    (∀ vars,
      (∀ s, ofVariables vars = .ok s ↔ Told vars s ∧ s.validate = .ok ()) ∧
      ((∃ s, ofVariables vars = .ok s) ↔ ∀ o ∈ offences, ¬o.committed vars) ∧
      (∀ e, ofVariables vars = .error e → ∃ before o after, offences = before ++ o :: after ∧
        (∀ p ∈ before, ¬p.committed vars) ∧ o.committed vars ∧ o.reported e) ∧
      ∀ s, ofVariables vars = .ok s → ∀ given own,
        (∃ p, ReceivePipeline.build s given own = .ok p) ↔
          ¬vars.Tells "SEND_ONLY" Denotes.bool true) ∧
    ∀ s around, s.validate = .ok () → s.delayed.increase.nanos = 0 → Spaced around →
      ofVariables (s.environment around) = .ok s := by
  refine ⟨fun vars => ?_, fun s around valid whole spaced => ?_⟩
  · have judged := judged_ofVariables vars
    have accepted (s : Settings) (read : ofVariables vars = .ok s) :
        Told vars s ∧ s.validate = .ok () := by
      rw [read] at judged
      exact judged.2
    refine ⟨fun s => ⟨accepted s, fun ⟨told, valid⟩ => told.ofVariables valid⟩, ?_, ?_, ?_⟩
    · cases read : ofVariables vars with
      | ok s =>
        rw [read] at judged
        exact iff_of_true ⟨s, rfl⟩ judged.1
      | error e =>
        rw [read] at judged
        obtain ⟨before, o, after, listed, _, committed, _⟩ := judged
        refine iff_of_false (fun ⟨_, impossible⟩ => by cases impossible) fun innocent => ?_
        exact innocent o (by simp [listed]) committed
    · intro e refused
      rw [refused] at judged
      exact judged
    · intro s read given own
      obtain ⟨told, valid⟩ := accepted s read
      exact exists_build_iff told valid given own
  · exact (told_environment spaced whole).ofVariables valid

theorem tabbed_settings_read :
    ofVariables (({ address := " orders", sendOnly := true } : Settings).environment
      fun _ => (['\t'], ['\n', ' '])) = .ok { address := " orders", sendOnly := true } :=
  settings_from_environment.2 _ _ (by rfl) rfl fun _ => by simp [Text.isBlank]

end Settings
end Redelivery
