import LookupJoin.Clock
import LookupJoin.Zone.Named
/-!
Time zones. A zone is named by its distance from universal time, in one of the forms `+08:00`, `+0800` and
`+08`, or by the place whose clocks it has. The distance is written after an instant in minutes.
-/
namespace LookupJoin.Zone

def offsetOf? (sign : Char) (hours minutes : List Char) : Option Int :=
  let seconds := 3600 * Text.value hours + 60 * Text.value minutes
  if !(hours ++ minutes).all Text.isDigit || 86400 ≤ seconds then none
  else if sign = '+' then some seconds
  else if sign = '-' then some (-seconds)
  else none

def fixedOffset? : List Char → Option Int
  | [sign, h, k, ':', m, n] => offsetOf? sign [h, k] [m, n]
  | [sign, h, k, m, n] => offsetOf? sign [h, k] [m, n]
  | [sign, h, k] => offsetOf? sign [h, k] []
  | _ => none

/-- Seconds that the clocks of a zone are ahead of universal time at an instant. A name that no zone has
stands for universal time. -/
def offset (name : String) (instant : Instant) : Int :=
  match fixedOffset? name.toList with
  | some seconds => seconds
  | none => ((history? name).map (offsetAt instant.seconds)).getD 0

def offsetText (offset : Int) : String :=
  if offset = 0 then "Z"
  else
    let minutes := (offset.natAbs + 30) / 60
    (if offset < 0 then "-" else "+") ++ Date.padded 2 (minutes / 60) ++ ":" ++ Date.padded 2 (minutes % 60)

def text (name : String) (instant : Instant) : String :=
  (instant.ahead (offset name instant)).text ++ offsetText (offset name instant)

example : offsetText 28800 = "+08:00" ∧ offsetText (-30600) = "-08:30" ∧ offsetText 0 = "Z" ∧
    fixedOffset? "+0800".toList = some 28800 ∧ fixedOffset? "-08".toList = some (-28800) := by
  decide +kernel

end LookupJoin.Zone
