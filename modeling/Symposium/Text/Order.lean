/-!
# Order of texts

Identifiers are compared by code point, character by character, and a text comes before its proper
extensions. Main statements: `before` is irreflexive, transitive and decides every pair of different
texts.
-/

namespace Symposium.Text

/-- Whether the first list of characters comes strictly before the second. -/
def charsBefore : List Char → List Char → Bool
  | _, [] => false
  | [], _ :: _ => true
  | a :: as, b :: bs => a.toNat < b.toNat || (a == b && charsBefore as bs)

/-- Whether the first text comes strictly before the second, by code point. -/
def before (a b : String) : Bool :=
  charsBefore a.toList b.toList

/-- No list of characters is before itself. -/
theorem charsBefore_irrefl (as : List Char) : charsBefore as as = false := by
  induction as with
  | nil => rfl
  | cons a as ih => simp [charsBefore, ih]

/-- Lists of characters are put in order transitively. -/
theorem charsBefore_trans {as bs cs : List Char} (hab : charsBefore as bs = true)
    (hbc : charsBefore bs cs = true) : charsBefore as cs = true := by
  induction as generalizing bs cs with
  | nil =>
    cases cs with
    | nil => cases bs <;> simp [charsBefore] at hbc
    | cons c cs => rfl
  | cons a as ih =>
    cases bs with
    | nil => simp [charsBefore] at hab
    | cons b bs =>
      cases cs with
      | nil => simp [charsBefore] at hbc
      | cons c cs =>
        -- the first characters that differ decide, here as in the other two comparisons
        simp only [charsBefore, Bool.or_eq_true, Bool.and_eq_true, decide_eq_true_eq,
          beq_iff_eq] at hab hbc ⊢
        rcases hab with hab | ⟨rfl, hab⟩
        · rcases hbc with hbc | ⟨rfl, _⟩
          · exact .inl (by omega)
          · exact .inl hab
        · rcases hbc with hbc | ⟨rfl, hbc⟩
          · exact .inl hbc
          · exact .inr ⟨rfl, ih hab hbc⟩

/-- Of two different lists of characters one is before the other. -/
theorem charsBefore_total {as bs : List Char} (hab : charsBefore as bs = false)
    (hba : charsBefore bs as = false) : as = bs := by
  induction as generalizing bs with
  | nil => cases bs with
    | nil => rfl
    | cons b bs => simp [charsBefore] at hab
  | cons a as ih =>
    cases bs with
    | nil => simp [charsBefore] at hba
    | cons b bs =>
      simp only [charsBefore, Bool.or_eq_false_iff, Bool.and_eq_false_imp, decide_eq_false_iff_not,
        beq_iff_eq] at hab hba
      have hcode : a.toNat = b.toNat := by omega
      have hchar : a = b := Char.ext (UInt32.toNat_inj.1 hcode)
      subst hchar
      rw [ih (hab.2 rfl) (hba.2 rfl)]

/-- No text is before itself. -/
theorem before_irrefl (a : String) : before a a = false :=
  charsBefore_irrefl _

/-- Texts are put in order transitively. -/
theorem before_trans {a b c : String} (hab : before a b = true) (hbc : before b c = true) :
    before a c = true :=
  charsBefore_trans hab hbc

/-- Of two different texts one is before the other. -/
theorem before_total {a b : String} (hab : before a b = false) (hba : before b a = false) :
    a = b :=
  String.toList_inj.1 (charsBefore_total hab hba)

end Symposium.Text
