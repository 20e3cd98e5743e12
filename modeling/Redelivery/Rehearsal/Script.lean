import Redelivery.Failure.Pool
import Redelivery.Pipeline.Flow

/-! Handlers that follow a script. A script lists what is done in each call, and what is done in
every call after the last one it lists. Some messages may have a script of their own, and their
calls are counted on their own. -/
namespace Redelivery

structure Act where
  pause : Duration := .zero
  body : Option Bytes := none
  setHeaders : List (String × String) := []
  removeHeaders : List String := []
  panic : Option String := none
  failure : Option FailureRecipe := none

def Act.headers (act : Act) (h : Headers) : Headers :=
  act.removeHeaders.foldl Headers.erase (act.setHeaders.foldl (fun h e => h.insert e.1 e.2) h)

def Act.outcome (act : Act) (identity : Nat) : HandlerOutcome :=
  match act.panic, act.failure with
  | some text, _ => .panicked text
  | none, some recipe => .failed (recipe.build identity)
  | none, none => .done

def Act.perform (act : Act) (call identity : Nat) (m : Incoming) : Handling :=
  { call, pause := act.pause, headers := act.headers m.headers, body := act.body.getD m.body,
    outcome := act.outcome identity }

structure Script where
  acts : List Act := []
  /-- What is done in calls after the last one listed. -/
  after : Act := {}

def Script.act (s : Script) (call : Nat) : Act := (s.acts[call - 1]?).getD s.after

structure ScriptedHandler where
  name : String
  script : Script := {}
  own : List (String × Script) := []

def ScriptedHandler.part (h : ScriptedHandler) (id : String) : Option String × Script :=
  match h.own.lookup id with
  | some script => (some id, script)
  | none => (none, h.script)

end Redelivery
