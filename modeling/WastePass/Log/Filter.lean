import WastePass.Log.Rule

/-!
# Log filters — which events are logged

    A filter is a list of rules. Of the rules that are about an event the most specific
    one decides, and of rules that are equally specific the last. An event that no rule
    is about is not logged. Without any rule only errors are.
-/

namespace WastePass.Log

namespace Rule

/-- The rule does not depend on a span of work or on the value of a field. -/
def isUnconditional (rule : Rule) : Bool :=
  rule.span.isNone && rule.fields.all fun f => !f.withValue

/-- The rule is about the event. -/
def isAbout (rule : Rule) (e : Event) : Bool :=
  rule.isUnconditional &&
    (rule.target.all fun t => t.toList.isPrefixOf e.target.toList) &&
    rule.fields.all fun f => ("message" :: e.fields.map (·.1)).contains f.name

/-- How much of the name of a part of the program a rule gives. -/
def targetRank (rule : Rule) : Nat :=
  match rule.target with
  | none => 0
  | some t => t.length + 1

/-- The names of the fields of a rule as numbers, a zero behind each name. -/
def fieldKey (rule : Rule) : List Nat :=
  rule.fields.flatMap fun f => f.name.toList.map (fun c => c.toNat + 1) ++ [0]

/-- A list of numbers does not come before another in the order of a dictionary. -/
def notBefore : List Nat → List Nat → Bool
  | _, [] => true
  | [], _ :: _ => false
  | a :: as, b :: bs => b < a || (a = b && notBefore as bs)

/-- A rule is at least as specific as another: by the part of the program, then by the
    number of fields, then by their names. -/
def atLeast (rule other : Rule) : Bool :=
  other.targetRank < rule.targetRank ||
    (other.targetRank = rule.targetRank &&
      (other.fields.length < rule.fields.length ||
        (other.fields.length = rule.fields.length &&
          notBefore rule.fieldKey other.fieldKey)))

end Rule

/-- The rules that decide which events are logged. -/
abbrev Filter := List Rule

namespace Filter

/-- The parts of a text between commas, without those that are empty. -/
def parts (text : String) : List (List Char) :=
  (text.toList.splitOnP (· = ',')).filter fun part => !part.isEmpty

/-- Reads a filter. -/
def read (text : String) : Except FilterFault Filter :=
  (parts text).mapM Rule.read

/-- The rule that decides about an event. -/
def deciding (filter : Filter) (e : Event) : Option Rule :=
  filter.foldl
    (fun best rule =>
      if rule.isAbout e && best.all rule.atLeast then some rule else best)
    none

/-- The filter lets an event into the log. -/
def admits (filter : Filter) (e : Event) : Bool :=
  let rules : Filter := if filter.isEmpty then [{ level := .error }] else filter
  match rules.deciding e with
  | none => false
  | some rule => e.level.rank ≤ rule.level.rank

end Filter

end WastePass.Log
