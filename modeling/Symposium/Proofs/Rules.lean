import Symposium.Proofs.Checks

/-!
# The first rule that is broken

An operation goes through its rules one after the other and reports the first one that is broken.
A list of rules says which they are, in which order, and how each is reported; what breaks a rule is
a proposition, so that it is said in the terms of the rule and not in those of the check. Whether a
computation `Enforces` its rules is put together from its checks, one for each rule.
-/

namespace Symposium

/-- A rule: what breaks it, and how this is reported. -/
structure Rule where
  broken : Prop
  refusal : Refusal

namespace Rule

/-- How the first rule is reported that is broken. -/
inductive First : List Rule → Refusal → Prop where
  | here {rule rules} :
    rule.broken →
    First (rule :: rules) rule.refusal
  | later {rule rules refusal} :
    ¬ rule.broken →
    First rules refusal →
    First (rule :: rules) refusal

/-- Whether no rule is broken. -/
def AllKept (rules : List Rule) : Prop :=
  ∀ rule ∈ rules, ¬ rule.broken

/-- Whether a computation reports the first rule that is broken, and gives a value if none is. -/
inductive Enforces {α : Type} (rules : List Rule) (a : α) : Except Failure α → Prop where
  | refused {refusal} :
    First rules refusal →
    Enforces rules a (.error (.refused refusal))
  | passed :
    AllKept rules →
    Enforces rules a (.ok a)

variable {α β : Type} {rules : List Rule} {rule : Rule} {refusal : Refusal} {a : α}
  {x : Except Failure α}

/-- Without rules, all are kept. -/
@[simp] lemma allKept_nil : AllKept [] :=
  List.forall_mem_nil _

/-- All rules are kept if the first and all others are. -/
@[simp] lemma allKept_cons : AllKept (rule :: rules) ↔ ¬ rule.broken ∧ AllKept rules :=
  List.forall_mem_cons

/-- Rules in two batches are all kept if both batches are. -/
@[simp] lemma allKept_append {more : List Rule} :
    AllKept (rules ++ more) ↔ AllKept rules ∧ AllKept more :=
  List.forall_mem_append

/-- If a rule is the first that is broken, not all are kept. -/
lemma First.not_allKept (h : First rules refusal) : ¬ AllKept rules := by
  intro hkept
  induction h with
  | here hbroken => exact hkept _ List.mem_cons_self hbroken
  | later _ _ ih => exact ih (List.forall_mem_cons.1 hkept).2

/-- A rule that is broken first is so whatever rules come later. -/
lemma First.append (h : First rules refusal) (more : List Rule) :
    First (rules ++ more) refusal := by
  induction h with
  | here hbroken => exact .here hbroken
  | later hkept _ ih => exact .later hkept ih

/-- Rules that are all kept leave it to the later ones which is broken first. -/
lemma First.after {more : List Rule} (hkept : AllKept rules) (h : First more refusal) :
    First (rules ++ more) refusal := by
  induction rules with
  | nil => exact h
  | cons rule rules ih =>
    obtain ⟨hrule, hrules⟩ := List.forall_mem_cons.1 hkept
    exact .later hrule (ih hrules)

namespace Enforces

/-- A check that refuses by its first rule enforces it, whatever the others are. -/
lemma here (h : rule.broken) : Enforces (rule :: rules) a (.error (.refused rule.refusal)) :=
  .refused (.here h)

/-- A check enforces one more rule in front if it is kept. -/
lemma later (hkept : ¬ rule.broken) (h : Enforces rules a x) : Enforces (rule :: rules) a x := by
  cases h with
  | refused hfirst => exact .refused (.later hkept hfirst)
  | passed hrules => exact .passed (List.forall_mem_cons.2 ⟨hkept, hrules⟩)

/-- A check of one rule, and of the others if it is kept. -/
lemma require_bind {condition : Bool} {f : Unit → Except Failure α}
    (h : condition = false ↔ rule.broken) (hf : Enforces rules a (f ())) :
    Enforces (rule :: rules) a (Failure.require condition rule.refusal >>= f) := by
  cases condition with
  | false => exact .here (h.1 rfl)
  | true =>
    refine .later (fun hbroken => ?_) hf
    cases h.2 hbroken

/-- A check of the last rule. -/
lemma require {condition : Bool} (h : condition = false ↔ rule.broken) :
    Enforces [rule] () (Failure.require condition rule.refusal) := by
  cases condition with
  | false => exact .here (h.1 rfl)
  | true =>
    refine .passed (List.forall_mem_singleton.2 fun hbroken => ?_)
    cases h.2 hbroken

/-- Some rules are enforced first, and if they are kept further ones. -/
lemma bind {f : α → Except Failure β} {b : β} {more : List Rule} (hx : Enforces rules a x)
    (hf : AllKept rules → Enforces more b (f a)) : Enforces (rules ++ more) b (x >>= f) := by
  cases hx with
  | refused hfirst => exact .refused (hfirst.append more)
  | passed hkept =>
    have hmore := hf hkept
    show Enforces (rules ++ more) b (f a)
    generalize f a = y at hmore
    cases hmore with
    | refused hfirst => exact .refused (.after hkept hfirst)
    | passed hmore => exact .passed (List.forall_mem_append.2 ⟨hkept, hmore⟩)

/-- A check enforces its rules whatever is made of its result. -/
lemma map (h : Enforces rules a x) (f : α → β) : Enforces rules (f a) (x.map f) := by
  cases h with
  | refused hfirst => exact .refused hfirst
  | passed hkept => exact .passed hkept

/-- A check whose rules are all kept comes to its result. -/
lemma eq_ok (h : Enforces rules a x) (hkept : AllKept rules) : x = .ok a := by
  cases h with
  | refused hfirst => exact absurd hkept hfirst.not_allKept
  | passed _ => rfl

end Enforces

end Rule

end Symposium
