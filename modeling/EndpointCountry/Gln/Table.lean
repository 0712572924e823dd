import EndpointCountry.Gln.Rule
import EndpointCountry.Text

/-!
# Prefix tables

The rules for prefixes of one length. A table refuses a rule that does not fit it or that
contradicts a rule it holds, so the rules of a table built by `offer` agree wherever they overlap.
-/

namespace EndpointCountry.Gln

/-- The rules for prefixes of `digits` digits, the latest first. -/
structure Table where
  digits : Nat
  rules : List Rule

/-- Why a table refuses a rule. -/
inductive Refusal where
  /-- The run ends before it starts. -/
  | reversed (first last : Nat)
  /-- The run ends beyond the largest prefix. -/
  | tooLarge (last : Nat)
  /-- Another country holds `number`, the smallest such prefix of the run. -/
  | taken (number : Nat) (holder claimant : Country)
  deriving DecidableEq

/-- The wording of a refusal by a table of prefixes of `digits` digits. -/
def Refusal.message (digits : Nat) : Refusal → String
  | .reversed first last => s!"range start {first} is after range end {last}"
  | .tooLarge last => s!"range end {last} does not fit a {digits}-digit prefix"
  | .taken number holder claimant =>
    let shown := String.ofList (Text.padded digits number)
    s!"prefix {shown} is already mapped to {holder.text}, cannot remap to {claimant.text}"

/-- A refusal as a fault of the configuration. -/
def Refusal.toFault (digits : Nat) (refusal : Refusal) : Fault :=
  .setting s!"gln_ranges[{digits}-digit]" (refusal.message digits)

namespace Table

/-- The table without rules. -/
def empty (digits : Nat) : Table :=
  ⟨digits, []⟩

/-- A table of trusted rules; where two of them overlap, the later one counts. -/
def ofRules (digits : Nat) (rules : List Rule) : Table :=
  ⟨digits, rules.reverse⟩

/-- How many prefixes of the table's length there are. -/
def capacity (t : Table) : Nat :=
  Nat.pow 10 t.digits

/-- The country that holds a prefix, if a rule covers it. -/
def holder? (t : Table) (p : Nat) : Option Country :=
  (t.rules.find? (·.Covers p)).map (·.country)

/-- The country of a prefix; a prefix that no rule covers has none. -/
def lookup (t : Table) (p : Nat) : Country :=
  (t.holder? p).getD .unknown

/-- The smallest prefix of a rule that a rule for another country covers. -/
def conflict? (t : Table) (rule : Rule) : Option Nat :=
  ((t.rules.filter (·.Contradicts rule)).map fun held => (held.meet rule).first).min?

/-- No rule stands in the way exactly when none of the table's rules contradicts. -/
theorem conflict?_eq_none_iff {t : Table} {rule : Rule} :
    t.conflict? rule = none ↔ ∀ held ∈ t.rules, ¬ held.Contradicts rule := by
  simp [conflict?, List.min?_eq_none_iff]

/-- Offers a rule: the table afterwards, and its answer. All checks come first, and only a rule that
passes them changes the table. -/
def offer (t : Table) (rule : Rule) : Table × Except Refusal Unit :=
  if rule.last < rule.first then (t, .error (.reversed rule.first rule.last))
  else if t.capacity ≤ rule.last then (t, .error (.tooLarge rule.last))
  else
    match t.conflict? rule with
    | some p => (t, .error (.taken p (t.lookup p) rule.country))
    | none => ({ t with rules := rule :: t.rules }, .ok ())

/-- Adds rules one after another. The rules before the first refused one stay, and the refusal, if
any, is told. -/
def addAll (t : Table) : List Rule → Table × Except Refusal Unit
  | [] => (t, .ok ())
  | rule :: rest =>
    match t.offer rule with
    | (next, .ok ()) => next.addAll rest
    | (next, .error refusal) => (next, .error refusal)

/-- The parts of a rule that none of the given rules covers. -/
def uncovered (rules : List Rule) (rule : Rule) : List Rule :=
  rules.foldl (fun parts held => parts.flatMap (·.without held)) [rule]

/-- How many prefixes rules cover one by one. -/
def totalWidth : List Rule → Nat
  | [] => 0
  | rule :: rest => rule.width + totalWidth rest

/-- How many prefixes a list of rules covers, each counted once. -/
def coverage : List Rule → Nat
  | [] => 0
  | rule :: rest => totalWidth (uncovered rest rule) + coverage rest

/-- How many prefixes have a country or are marked as having none. -/
def size (t : Table) : Nat :=
  coverage t.rules

/-- A table that maps no prefix. -/
def isEmpty (t : Table) : Bool :=
  t.size == 0

end Table

end EndpointCountry.Gln
