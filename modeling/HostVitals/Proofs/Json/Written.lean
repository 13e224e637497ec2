import HostVitals.Metric
import HostVitals.Proofs.Decimal.Written
import Mathlib.Data.String.Basic

/-!
# Written numbers, objects and samples

The text of a float stands for a number that rounds to it, the text of an object is that of its
members, one after the other, and the text of a sample is one of two forms.

* `Shows`: a text is the written form of a double.
* `objectText`: an object whose values are written already.
* `Sample.text`: a gauge with its value, or a meter with its count and its rates.

`shows_floatText` says that every float is written so that it is shown, and `render_object` and
`render_json` compare the others with what is served.
-/

namespace HostVitals

namespace Json

open Decimal (Binary Reading Stands)

/-- A text is the written form of a double. What is not finite has none, and zero keeps its sign. Of
any other double the text is a number that rounds to it. -/
inductive Shows : String → Reading → Prop
  | nan : Shows "null" .nan
  | infinite {negative : Bool} : Shows "null" (.infinite negative)
  | zero {negative : Bool} : Shows ((if negative then "-" else "") ++ "0.0") (.zero negative)
  | finite {negative : Bool} {magnitude : Binary} {text : String} {r : ℚ} :
    Stands text.toList r → magnitude.Near r →
    Shows ((if negative then "-" else "") ++ text) (.finite negative magnitude)

/-- The written form of a float is one. -/
theorem shows_floatText (x : Float) : Shows (floatText x) (Reading.ofFloat x) := by
  unfold floatText
  cases read : Reading.ofFloat x with
  | nan => exact .nan
  | infinite => exact .infinite
  | zero => exact .zero
  | finite negative magnitude =>
    exact .finite (Decimal.stands_decimal rfl _)
      (Binary.near_shortest (Binary.isDouble_of_ofBits read) _)

/-- An object in braces: its members in their order with commas between them, each with its name in
quotes, a colon, and the text of its value. -/
def objectText (members : List (String × String)) : String :=
  "\x7b" ++ ",".intercalate (members.map fun member => stringText member.1 ++ ":" ++ member.2) ++
    "\x7d"

theorem renderMembers_eq (members : List (String × Json)) :
    renderMembers members = ",".intercalate
      (members.map fun member => stringText member.1 ++ ":" ++ member.2.render) := by
  induction members with
  | nil => rfl
  | cons member rest ih =>
    cases rest with
    | nil => simp [renderMembers]
    | cons next rest =>
      rw [List.map_cons, List.map_cons, String.intercalate_cons_cons, renderMembers, ih]
      · rfl
      · exact List.cons_ne_nil _ _

theorem render_object (members : List (String × Json)) :
    (object members).render =
      objectText (members.map fun member => (member.1, member.2.render)) := by
  rw [render, renderMembers_eq, objectText, List.map_map]
  rfl

end Json

/-- The text of a number. -/
def GaugeValue.text : GaugeValue → String
  | .integer n => toString n
  | .float x => Json.floatText x

/-- The text of a sample. -/
def Sample.text : Sample → String
  | .gauge value => Json.objectText [("type", "\"gauge\""), ("value", value.text)]
  | .meter view => Json.objectText
      [("type", "\"meter\""), ("count", toString view.count.toInt),
       ("meanRate", Json.floatText view.mean), ("oneMinuteRate", Json.floatText view.one),
       ("fiveMinuteRate", Json.floatText view.five),
       ("fifteenMinuteRate", Json.floatText view.fifteen)]

theorem GaugeValue.render_json (value : GaugeValue) : value.json.render = value.text := by
  cases value <;> rfl

/-- What is served of a sample is its text. -/
theorem Sample.render_json (sampled : Sample) : sampled.json.render = sampled.text := by
  cases sampled with
  | gauge value =>
    have kind : Json.stringText "gauge" = "\"gauge\"" := by decide +kernel
    simp only [json, text, Json.render_object, List.map_cons, List.map_nil, Json.render, kind,
      value.render_json]
  | meter view =>
    have kind : Json.stringText "meter" = "\"meter\"" := by decide +kernel
    simp only [json, text, Json.render_object, List.map_cons, List.map_nil, Json.render, kind]

end HostVitals
