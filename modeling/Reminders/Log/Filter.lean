import Reminders.Log.Directive

/-!
# Log filters

A filter is a list of directives between commas. Of those that apply to an entry the most specific
one decides, and of several that are as specific the last one. Where no directive applies, nothing
is logged.
-/

namespace Reminders.Log

structure Filter where
  directives : List Directive
deriving DecidableEq, Repr

namespace Filter

/-- Lets all entries pass up to a level. -/
def upTo (level : Level) : Filter := ⟨[⟨none, none, none, level.rank⟩]⟩

/-- Reads a filter. One without directives lets errors pass only. -/
def parse? (cs : List Char) : Option Filter :=
  match (Text.splitOn ',' cs).filter (!·.isEmpty) with
  | [] => some (upTo .error)
  | parts => (parts.mapM Directive.parse?).map Filter.mk

/-- The filter that a variable gives. An unreadable one counts as none. -/
def ofSetting (setting : Option String) : Filter :=
  (setting.bind fun s => parse? s.toList).getD (upTo .info)

/-- The directive that decides about an entry. -/
def decisive? (f : Filter) (e : Entry) : Option Directive :=
  f.directives.foldl (fun best d =>
    if d.appliesTo e && best.all fun b : Directive => b.givesWayTo d then some d else best) none

/-- Whether an entry is logged. -/
def passes (f : Filter) (e : Entry) : Bool :=
  (f.decisive? e).any fun d => e.level.rank ≤ d.rank

end Filter

end Reminders.Log
