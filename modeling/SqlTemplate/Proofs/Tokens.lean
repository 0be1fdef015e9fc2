import SqlTemplate.Token

/-!
# Characters of names, and joined tokens

The characters of names are ASCII letters, digits and the underscore.

Text that follows text belongs to the same token. Joining leaves the placeholders as they are and
makes one token of each maximal run of text between them.
-/

namespace SqlTemplate

def IsLetter (c : Char) : Prop :=
  ('A' ≤ c ∧ c ≤ 'Z') ∨ ('a' ≤ c ∧ c ≤ 'z')

theorem isAlpha_iff {c : Char} : c.isAlpha ↔ IsLetter c := by
  have upper : c.isUpper ↔ 'A' ≤ c ∧ c ≤ 'Z' := decide_eq_true_iff
  have lower : c.isLower ↔ 'a' ≤ c ∧ c ≤ 'z' :=
    (Bool.and_eq_true _ _).to_iff.trans (and_congr decide_eq_true_iff decide_eq_true_iff)
  exact (Bool.or_eq_true _ _).to_iff.trans (or_congr upper lower)

theorem isNameChar_iff {c : Char} :
    isNameChar c ↔ IsLetter c ∨ ('0' ≤ c ∧ c ≤ '9') ∨ c = '_' := by
  have digit : c.isDigit ↔ '0' ≤ c ∧ c ≤ '9' :=
    (Bool.and_eq_true _ _).to_iff.trans (and_congr decide_eq_true_iff decide_eq_true_iff)
  rw [isNameChar, Char.isAlphanum, Bool.or_eq_true, Bool.or_eq_true, isAlpha_iff, digit,
    decide_eq_true_iff, or_assoc]

theorem toNat_of_isNameChar {c : Char} (inName : isNameChar c) : 48 ≤ c.toNat ∧ c.toNat ≤ 122 := by
  rcases isNameChar_iff.mp inName with (⟨low, high⟩ | ⟨low, high⟩) | ⟨low, high⟩ | rfl
  · exact ⟨Nat.le_trans (by decide) low, Nat.le_trans high (by decide)⟩
  · exact ⟨Nat.le_trans (by decide) low, Nat.le_trans high (by decide)⟩
  · exact ⟨Nat.le_trans (by decide) low, Nat.le_trans high (by decide)⟩
  · decide

namespace Token

/-- Puts a token in front of others, and joins text to text. -/
def prepend : Token → List Token → List Token
  | .text first, .text second :: rest => .text (first ++ second) :: rest
  | token, rest => token :: rest

def joined (tokens : List Token) : List Token :=
  tokens.foldr prepend []

@[simp] theorem joined_nil : joined [] = [] := rfl

@[simp] theorem joined_cons (token : Token) (tokens : List Token) :
    joined (token :: tokens) = token.prepend (joined tokens) := rfl

@[simp] theorem prepend_placeholder (name : String) (tokens : List Token) :
    (placeholder name).prepend tokens = .placeholder name :: tokens := rfl

@[simp] theorem text_prepend_placeholder (content name : String) (tokens : List Token) :
    (text content).prepend (.placeholder name :: tokens) =
      .text content :: .placeholder name :: tokens := rfl

/-- The order in which texts are joined does not matter. -/
theorem text_prepend_text_prepend (first second : String) (tokens : List Token) :
    (text first).prepend ((text second).prepend tokens) =
      (text (first ++ second)).prepend tokens := by
  cases tokens with
  | nil => rfl
  | cons token rest =>
    cases token with
    | text third => simp only [prepend, String.append_assoc]
    | placeholder name => rfl

theorem prepend_ne_nil (token : Token) (tokens : List Token) : token.prepend tokens ≠ [] := by
  cases token with
  | placeholder name => exact List.cons_ne_nil _ _
  | text content =>
    cases tokens with
    | nil => exact List.cons_ne_nil _ _
    | cons next tokens => cases next <;> exact List.cons_ne_nil _ _

theorem getLast?_prepend {token : Token} {tokens : List Token} {name : String} :
    (token.prepend tokens).getLast? = some (placeholder name) ↔
      (token :: tokens).getLast? = some (placeholder name) := by
  cases token with
  | placeholder other => exact Iff.rfl
  | text first =>
    cases tokens with
    | nil => exact Iff.rfl
    | cons next rest =>
      cases next with
      | placeholder other => exact Iff.rfl
      | text second => cases rest <;> simp [prepend]

/-- Joining does not change whether a placeholder is last. -/
theorem getLast?_joined {tokens : List Token} {name : String} :
    (joined tokens).getLast? = some (placeholder name) ↔
      tokens.getLast? = some (placeholder name) := by
  induction tokens with
  | nil => exact Iff.rfl
  | cons token tokens inductionHypothesis =>
    rw [joined_cons, getLast?_prepend]
    cases tokens with
    | nil => exact Iff.rfl
    | cons next tokens =>
      obtain ⟨head, tail, shape⟩ :=
        List.exists_cons_of_ne_nil (prepend_ne_nil next (joined tokens))
      rw [joined_cons, shape] at inductionHypothesis ⊢
      rw [List.getLast?_cons_cons, List.getLast?_cons_cons, inductionHypothesis]

end Token

end SqlTemplate
