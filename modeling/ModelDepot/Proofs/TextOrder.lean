import Mathlib.Data.String.Basic
import ModelDepot.Store.Table
import ModelDepot.Proofs.Json.Texts

/-!
The order of texts. They are compared character by character, and that is the order of their UTF-8 bytes.
Main statement: `lt_iff_utf8_lt`.
-/
namespace ModelDepot.Text

theorem digit_lt {m n : Nat} (smaller : m < n) : m / 64 < n / 64 ∨ m / 64 = n / 64 ∧ m % 64 < n % 64 := by
  omega

/-- The first of the digits to base 64 in which two numbers differ decides. -/
theorem digits_lt {m n : Nat} (smaller : m < n) :
    m / 262144 < n / 262144 ∨ m / 262144 = n / 262144 ∧
      (m / 4096 % 64 < n / 4096 % 64 ∨ m / 4096 % 64 = n / 4096 % 64 ∧
        (m / 64 % 64 < n / 64 % 64 ∨ m / 64 % 64 = n / 64 % 64 ∧ m % 64 < n % 64)) := by
  rw [show 4096 = 64 * 64 from rfl, show 262144 = 64 * 64 * 64 from rfl]
  simp only [← Nat.div_div_eq_div_mul]
  rcases digit_lt smaller with upper | ⟨same, lower⟩
  · rcases digit_lt upper with upper | ⟨same, lower⟩
    · rcases digit_lt upper with upper | ⟨same, lower⟩
      · exact .inl upper
      · exact .inr ⟨same, .inl lower⟩
    · exact .inr ⟨by rw [same], .inr ⟨by rw [same], .inl lower⟩⟩
  · exact .inr ⟨by rw [same], .inr ⟨by rw [same], .inr ⟨by rw [same], lower⟩⟩⟩

/-- The bytes of a smaller character come first, whatever follows. -/
theorem utf8EncodeChar_lt {c d : Char} (less : c < d) (rest more : List UInt8) :
    String.utf8EncodeChar c ++ rest < String.utf8EncodeChar d ++ more := by
  have smaller : c.val.toNat < d.val.toNat := UInt32.lt_iff_toNat_lt.mp less
  have last : d.val.toNat < 0x110000 := by
    rcases d.valid with low | high
    · omega
    · exact high.2
  have byte (k : Nat) (small : k < 256) : (UInt8.ofNat k).toNat = k := UInt8.toNat_ofNat_of_lt' small
  have top (k : Nat) (small : k < 8) : k % 8 = k := Nat.mod_eq_of_lt small
  unfold String.utf8EncodeChar
  dsimp only
  generalize c.val.toNat = m at smaller
  generalize d.val.toNat = n at smaller last
  have digits := digits_lt smaller
  -- A shorter code begins with a smaller byte; codes of one length differ at the first digit that does.
  split_ifs
  all_goals
    simp (disch := omega) only [List.cons_append, List.nil_append, List.cons_lt_cons_iff, UInt8.lt_iff_toNat_lt,
      ← UInt8.toNat_inj, byte, top]
    omega

theorem flatMap_utf8_lt {a b : List Char} (less : a < b) :
    a.flatMap String.utf8EncodeChar < b.flatMap String.utf8EncodeChar := by
  induction a generalizing b with
  | nil =>
    cases b with
    | nil => exact absurd less (List.lt_irrefl [])
    | cons d more =>
      obtain ⟨byte, bytes, code⟩ := List.exists_cons_of_ne_nil (String.utf8EncodeChar_ne_nil (c := d))
      rw [List.flatMap_nil, List.flatMap_cons, code]
      exact List.nil_lt_cons _ _
  | cons c rest ih =>
    cases b with
    | nil => exact absurd less (List.not_lt_nil _)
    | cons d more =>
      rw [List.flatMap_cons, List.flatMap_cons]
      rcases List.cons_lt_cons_iff.mp less with first | ⟨rfl, later⟩
      · exact utf8EncodeChar_lt first _ _
      · exact List.append_left_lt (ih later)

/-- Texts are in the order of their bytes. -/
theorem lt_iff_utf8_lt (a b : String) : a < b ↔ Json.utf8 a < Json.utf8 b := by
  rw [Json.utf8_eq, Json.utf8_eq]
  refine ⟨fun less => flatMap_utf8_lt (String.lt_iff.mp less), fun less => ?_⟩
  rcases lt_trichotomy a b with before | rfl | after
  · exact before
  · exact absurd less (List.lt_irrefl _)
  · exact absurd less (List.lt_asymm (flatMap_utf8_lt (String.lt_iff.mp after)))

end ModelDepot.Text
