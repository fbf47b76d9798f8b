import Mathlib.Algebra.Order.Ring.Rat

set_option autoImplicit false

namespace Animacharacter.Alerts

-- A Python float that counts seconds. Finite values are exact here.
inductive PyFloat where
  | seconds (value : ℚ)
  | inf
  | negInf
  | nan
deriving DecidableEq

-- Float equality: a NaN is equal to nothing.
def PyFloat.eq (left right : PyFloat) : Bool :=
  match left with
  | .nan => false
  | _ => left = right

def PyFloat.reachedAfter (limit : PyFloat) (elapsed : ℚ) : Bool :=
  match limit with
  | .seconds value => value ≤ elapsed
  | .negInf => true
  | .inf | .nan => false

theorem PyFloat.eq_sound (left right : PyFloat) (equal : left.eq right = true) : left = right := by
  cases left <;> simp_all [PyFloat.eq]

namespace Level
def INFO : Int := 0
def WARN : Int := 1
def ERR : Int := 2
def FATAL : Int := 3
end Level

inductive AlertActionType where
  | raise
  | clear
deriving DecidableEq

def AlertActionType.value : AlertActionType → String
  | .raise => "raise"
  | .clear => "clear"

-- The enumeration's constructor; an unknown text is a ValueError.
def AlertActionType.ofValue (text : String) : Option AlertActionType :=
  if text = "raise" then some .raise
  else if text = "clear" then some .clear
  else none

structure Alert where
  level : Int
  src : String
  code : Int
  ttl : PyFloat := .inf
  subcode : Int := -1
  brief : String := ""
  description : String := ""
deriving DecidableEq

def Alert.eq (left right : Alert) : Bool :=
  left.level = right.level && left.src = right.src && left.code = right.code && left.ttl.eq right.ttl &&
    left.subcode = right.subcode && left.brief = right.brief && left.description = right.description

theorem Alert.eq_sound (left right : Alert) (equal : left.eq right = true) : left = right := by
  simp only [Alert.eq, Bool.and_eq_true, decide_eq_true_eq] at equal
  obtain ⟨⟨⟨⟨⟨⟨level, src⟩, code⟩, ttl⟩, subcode⟩, brief⟩, description⟩ := equal
  have same := PyFloat.eq_sound left.ttl right.ttl ttl
  cases left
  cases right
  simp_all

-- interfaces/msg/Alert
structure MsgAlert where
  level : Int32
  src : String
  code : Int32
  ttl : PyFloat
  subcode : Int32
  brief : String
  description : String
deriving DecidableEq

-- interfaces/msg/AlertAction
structure AlertAction where
  action : String
  alert : MsgAlert
deriving DecidableEq

def toRosAlert (alert : Alert) : MsgAlert where
  level := Int32.ofInt alert.level
  src := alert.src
  code := Int32.ofInt alert.code
  ttl := alert.ttl
  subcode := Int32.ofInt alert.subcode
  brief := alert.brief
  description := alert.description

def fromRosAlert (message : MsgAlert) : Alert where
  level := message.level.toInt
  src := message.src
  code := message.code.toInt
  ttl := message.ttl
  subcode := message.subcode.toInt
  brief := message.brief
  description := message.description

def buildMessage (action : AlertActionType) (alert : Alert) : AlertAction := ⟨action.value, toRosAlert alert⟩

def decodeActionMessage (message : AlertAction) : Option (AlertActionType × Alert) :=
  (AlertActionType.ofValue message.action).map fun action => (action, fromRosAlert message.alert)

def FitsInt32 (value : Int) : Prop := -2 ^ 31 ≤ value ∧ value < 2 ^ 31

instance (value : Int) : Decidable (FitsInt32 value) :=
  inferInstanceAs (Decidable (-2 ^ 31 ≤ value ∧ value < 2 ^ 31))

structure Representable (alert : Alert) : Prop where
  level : FitsInt32 alert.level
  code : FitsInt32 alert.code
  subcode : FitsInt32 alert.subcode

instance (alert : Alert) : Decidable (Representable alert) :=
  decidable_of_iff (FitsInt32 alert.level ∧ FitsInt32 alert.code ∧ FitsInt32 alert.subcode)
    ⟨fun fits => ⟨fits.1, fits.2.1, fits.2.2⟩, fun fits => ⟨fits.level, fits.code, fits.subcode⟩⟩

theorem to_int_of_int (value : Int) (fits : FitsInt32 value) : (Int32.ofInt value).toInt = value :=
  Int32.toInt_ofInt_of_le fits.1 fits.2

theorem from_to_ros_alert (alert : Alert) (representable : Representable alert) :
    fromRosAlert (toRosAlert alert) = alert := by
  simp only [fromRosAlert, toRosAlert, to_int_of_int _ representable.level, to_int_of_int _ representable.code,
    to_int_of_int _ representable.subcode]

theorem of_value_value (action : AlertActionType) : AlertActionType.ofValue action.value = some action := by
  cases action <;> decide

theorem decode_build_message (action : AlertActionType) (alert : Alert) (representable : Representable alert) :
    decodeActionMessage (buildMessage action alert) = some (action, alert) := by
  simp [decodeActionMessage, buildMessage, of_value_value, from_to_ros_alert alert representable]

theorem from_ros_alert_representable (message : MsgAlert) : Representable (fromRosAlert message) :=
  ⟨⟨message.level.le_toInt, message.level.toInt_lt⟩, ⟨message.code.le_toInt, message.code.toInt_lt⟩,
    ⟨message.subcode.le_toInt, message.subcode.toInt_lt⟩⟩

theorem decoded_representable (message : AlertAction) (action : AlertActionType) (alert : Alert)
    (decoded : decodeActionMessage message = some (action, alert)) : Representable alert := by
  simp only [decodeActionMessage, Option.map_eq_some_iff, Prod.mk.injEq] at decoded
  obtain ⟨_, _, _, rfl⟩ := decoded
  exact from_ros_alert_representable message.alert

end Animacharacter.Alerts
