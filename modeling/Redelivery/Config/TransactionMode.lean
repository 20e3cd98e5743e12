import Redelivery.Text.Blank

/-! What a transport guarantees about a receive. In all modes but the first a receive can be
rolled back, so that the same message is delivered again. -/
namespace Redelivery

inductive TransactionMode where
  | unprotected
  | receiveOnly
  | sendsAtomicWithReceive
  | transactionScope
  deriving DecidableEq, Repr, Inhabited

namespace TransactionMode

def all : List TransactionMode :=
  [.unprotected, .receiveOnly, .sendsAtomicWithReceive, .transactionScope]

def name : TransactionMode → String
  | .unprotected => "None"
  | .receiveOnly => "ReceiveOnly"
  | .sendsAtomicWithReceive => "SendsAtomicWithReceive"
  | .transactionScope => "TransactionScope"

def canAbort : TransactionMode → Bool
  | .unprotected => false
  | _ => true

def ofName? (text : String) : Option TransactionMode :=
  all.find? fun mode => Text.sameLetters text mode.name

end TransactionMode
end Redelivery
