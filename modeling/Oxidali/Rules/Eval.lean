import Oxidali.Rules.World

/-!
# Conditions and values

A condition or a value that the world does not let the engine know is
unevaluable.
-/

namespace Oxidali.Rules

/-- `none` when the world does not say. -/
abbrev EvalResult (α : Type) := Option α

structure EvalEnv where
  world : WorldSnapshot
  vol : Volatile
  rules : RuleSet
  enabled : List Bool
  ctx : EventCtx

namespace EvalEnv

def boolValue (b : Bool) : Int := if b then 1 else 0

def numeric10bit : Option Nat -> EvalResult Int
  | some value => if value ≠ inputValueMask10bit then some value else none
  | none => none

/-- `i64::saturating_add`. -/
def saturatingAdd (a b : Int) : Int :=
  max (-(2 ^ 63)) (min (a + b) (2 ^ 63 - 1))

variable (env : EvalEnv)

def sunIsUp : EvalResult Bool := do
  let wall <- env.world.wall
  let sun <- env.world.sun
  return decide (sun.sunriseMin <= wall.minutesOfDay ∧ wall.minutesOfDay < sun.sunsetMin)

def evalReading : Reading -> EvalResult Int
  | .lampLevel lamp => do (<- env.world.lamp lamp).level.map Int.ofNat
  | .lampCct lamp => do (<- env.world.lamp lamp).cctKelvin.map Int.ofNat
  | .lampIsOn lamp => do return boolValue (<- env.world.lamp lamp).isOn
  | .lampLastLevel lamp => do (<- env.world.lamp lamp).lastLevel.map Int.ofNat
  | .groupAnyOn group => do return boolValue (<- env.world.group group).anyOn
  | .groupAllOff group => do return boolValue (<- env.world.group group).allOff
  | .groupMemberCount group => do return (<- env.world.group group).memberCount
  | .inputOccupied input => do (<- env.world.input input).occupied.map boolValue
  | .inputLight input => do numeric10bit (<- env.world.input input).light
  | .inputPosition input => do numeric10bit (<- env.world.input input).position
  | .inputLastEventAge input => do
      (<- env.world.input input).lastEventAgeMs.map Int.ofNat
  | .timeNow => do return (<- env.world.wall).minutesOfDay
  | .timeHour => do return ((<- env.world.wall).minutesOfDay / 60 : Nat)
  | .timeMinute => do return ((<- env.world.wall).minutesOfDay % 60 : Nat)
  | .timeWeekday => do return (<- env.world.wall).weekday
  | .sunRise => do return (<- env.world.sun).sunriseMin
  | .sunSet => do return (<- env.world.sun).sunsetMin
  | .sunIsUp => env.sunIsUp.map boolValue
  | .var name =>
    match lookup env.vol.vars name with
    | some (.int value) => some value
    | _ => none
  | .eventValue => env.ctx.value
  | .eventDevice => env.ctx.device
  | .eventInstance => env.ctx.instance_
  | .eventOption => env.ctx.option

def evalValue : ValueExpr -> EvalResult Int
  | .literal value => some value
  | .reading reading => env.evalReading reading
  | .offset reading delta => (env.evalReading reading).map (saturatingAdd · delta)

end EvalEnv

def solarMinute (sun : SunTimes) (event : SolarEvent) (offsetMs : Int) : Nat :=
  let base : Int := match event with
    | .sunrise => sun.sunriseMin
    | .sunset => sun.sunsetMin
  ((base + offsetMs.tdiv 60000) % 1440).toNat

def minuteInRange (t start finish : Nat) : Bool :=
  if start <= finish then start <= t ∧ t <= finish else start <= t ∨ t <= finish

def compareInt (cmp : Cmp) (left right : Int) : Bool :=
  match cmp with
  | .eq => left = right
  | .ne => left ≠ right
  | .ge => right <= left
  | .le => left <= right
  | .gt => right < left
  | .lt => left < right

namespace EvalEnv

variable (env : EvalEnv)

def resolveTimeBound : TimeBound -> EvalResult Nat
  | .clock time => some (time.hour * 60 + time.minute)
  | .solar event offsetMs => do return solarMinute (<- env.world.sun) event offsetMs

def compareVar (name : String) (cmp : Cmp) (operand : VarOperand) : EvalResult Bool :=
  match lookup env.vol.vars name, operand with
  | some (.text text), .text other =>
    some (match cmp with
      | .eq => text = other
      | .ne => text ≠ other
      | _ => false)
  | some (.int value), .value expr => (env.evalValue expr).map (compareInt cmp value)
  | _, _ => some (cmp = .ne)

def ruleEnabled (name : String) : Bool :=
  match env.rules.rules.findIdx? fun rule => rule.name = name with
  | some idx => (env.enabled[idx]?).getD false
  | none => false

def lastFiredOlder (rule : String) (thanMs : Nat) : Bool :=
  match lookup env.vol.lastActivationMs rule with
  | some at_ => thanMs < env.world.nowMs - at_
  | none => true

def evalCondition : Condition -> EvalResult Bool
  | .timeInRange start finish => do
      let wall <- env.world.wall
      let s <- env.resolveTimeBound start
      let e <- env.resolveTimeBound finish
      return minuteInRange wall.minutesOfDay s e
  | .dayIn days => do
      let wall <- env.world.wall
      if wall.weekday < 7 then return days.contains wall.weekday else none
  | .sunIs up => do return (<- env.sunIsUp) == up
  | .lampIs lamp on => do return (<- env.world.lamp lamp).isOn == on
  | .lampLevel lamp cmp value => do
      match (<- env.world.lamp lamp).level with
      | none => return false
      | some level => return compareInt cmp level (<- env.evalValue value)
  | .lampCct lamp cmp value => do
      let left <- env.evalReading (.lampCct lamp)
      return compareInt cmp left (<- env.evalValue value)
  | .groupState group .anyOn => do return (<- env.world.group group).anyOn
  | .groupState group .allOff => do return (<- env.world.group group).allOff
  | .inputOccupancy input occupied => do
      return decide ((<- env.evalReading (.inputOccupied input)) ≠ 0) == occupied
  | .inputLight input above threshold => do
      let left <- env.evalReading (.inputLight input)
      let bound <- env.evalValue threshold
      return if above then decide (bound < left) else decide (left < bound)
  | .hclState target .enabled => some ((env.world.hclTarget target).any (·.enabled))
  | .hclState target .overridden =>
    some ((env.world.hclTarget target).any (·.overridden))
  | .deviceOnline device => some ((env.world.device device).any (·.online))
  | .ruleEnabled rule => some (env.ruleEnabled rule)
  | .lastFiredOlderThan rule thanMs => some (env.lastFiredOlder rule thanMs)
  | .timerRunning timer => some (env.vol.timer timer).isSome
  | .controllerActive => some env.world.controllerActive
  | .varCompare name cmp value => env.compareVar name cmp value

end EvalEnv
end Oxidali.Rules
