import SqlTemplate.Proofs.Canonical

/-!
# Markers and their places

A placeholder stands where its colon stands, after the bytes of all tokens before it. Joining text
to text moves no placeholder, so the places can be counted over tokens and over items alike.
-/

namespace SqlTemplate

namespace Token

/-- Where the placeholders among tokens that begin at `offset` stand, and their names. -/
def markers : Nat → List Token → List (Nat × String)
  | _, [] => []
  | offset, token :: tokens =>
    (token.name?.map (offset, ·)).toList ++ markers (offset + token.render.utf8ByteSize) tokens

theorem markers_placeholder_cons (offset : Nat) (name : String) (tokens : List Token) :
    markers offset (.placeholder name :: tokens) =
      (offset, name) :: markers (offset + (placeholder name).render.utf8ByteSize) tokens := rfl

theorem markers_prepend (offset : Nat) (token : Token) (tokens : List Token) :
    markers offset (token.prepend tokens) = markers offset (token :: tokens) := by
  cases token with
  | placeholder name => rfl
  | text first =>
    cases tokens with
    | nil => rfl
    | cons next tokens =>
      cases next with
      | placeholder name => rfl
      | text second =>
        simp [prepend, markers, name?, render, String.utf8ByteSize_append, Nat.add_assoc]

@[simp] theorem markers_joined (offset : Nat) (tokens : List Token) :
    markers offset (joined tokens) = markers offset tokens := by
  induction tokens generalizing offset with
  | nil => rfl
  | cons token tokens inductionHypothesis =>
    rw [joined_cons, markers_prepend, markers, markers, inductionHypothesis]

theorem map_snd_markers (offset : Nat) (tokens : List Token) :
    (markers offset tokens).map Prod.snd = names tokens := by
  induction tokens generalizing offset with
  | nil => rfl
  | cons token tokens inductionHypothesis =>
    rw [markers, List.map_append, inductionHypothesis]
    cases token <;> rfl

theorem le_of_mem_markers {offset : Nat} {tokens : List Token} {marker : Nat × String}
    (member : marker ∈ markers offset tokens) : offset ≤ marker.1 := by
  induction tokens generalizing offset with
  | nil => cases member
  | cons token tokens inductionHypothesis =>
    rcases List.mem_append.mp member with first | later
    · obtain ⟨name, -, rfl⟩ := Option.map_eq_some_iff.mp (Option.mem_toList.mp first)
      exact Nat.le_refl _
    · exact Nat.le_trans (Nat.le_add_right _ _) (inductionHypothesis later)

/-- Placeholders that come later stand further on. -/
theorem pairwise_markers (offset : Nat) (tokens : List Token) :
    ((markers offset tokens).map Prod.fst).Pairwise (· < ·) := by
  induction tokens generalizing offset with
  | nil => exact .nil
  | cons token tokens inductionHypothesis =>
    cases token with
    | text content => exact inductionHypothesis _
    | placeholder name =>
      rw [markers_placeholder_cons, List.map_cons, List.pairwise_cons]
      refine ⟨?_, inductionHypothesis _⟩
      intro place member
      obtain ⟨marker, later, rfl⟩ := List.mem_map.mp member
      have colon : 0 < (placeholder name).render.utf8ByteSize := by
        rw [render, String.utf8ByteSize_append]
        exact Nat.lt_of_lt_of_le (by decide) (Nat.le_add_right _ _)
      exact Nat.lt_of_lt_of_le (Nat.lt_add_of_pos_right colon) (le_of_mem_markers later)

end Token

namespace Item

@[simp] theorem utf8ByteSize_render_token (item : Item) :
    item.token.render.utf8ByteSize = Text.bytes item.text := by
  rw [Text.utf8ByteSize_eq_bytes, toList_render_token]

theorem bytes_text_pos (item : Item) : 0 < Text.bytes item.text := by
  obtain ⟨rest, text⟩ := item.text_eq_first_cons
  rw [text, Text.bytes_cons]
  exact Nat.lt_of_lt_of_le item.first.utf8Size_pos (Nat.le_add_right _ _)

/-- A marker is a placeholder among the items, after the bytes of the items before it. -/
theorem mem_markers {offset place : Nat} {name : String} {items : List Item} :
    (place, name) ∈ Token.markers offset (items.map token) ↔
      ∃ front chars back, items = front ++ placeholder chars :: back ∧
        String.ofList chars = name ∧ offset + Text.bytes (textOf front) = place := by
  induction items generalizing offset with
  | nil => simp [Token.markers]
  | cons item items inductionHypothesis =>
    rw [List.map_cons, Token.markers, List.mem_append, inductionHypothesis,
      utf8ByteSize_render_token]
    constructor
    · rintro (first | ⟨front, chars, back, rfl, rfl, rfl⟩)
      · cases item with
        | placeholder chars =>
          obtain ⟨rfl, rfl⟩ := Prod.mk.inj (List.mem_singleton.mp first)
          exact ⟨[], chars, items, rfl, rfl, rfl⟩
        | quoted opener body | unclosed opener body | cast | plain c => cases first
      · exact ⟨item :: front, chars, back, rfl, rfl, by simp [Nat.add_assoc]⟩
    · rintro ⟨front, chars, back, split, rfl, rfl⟩
      cases front with
      | nil =>
        obtain ⟨rfl, rfl⟩ := List.cons.inj split
        exact .inl List.mem_cons_self
      | cons head front =>
        obtain ⟨rfl, rfl⟩ := List.cons.inj split
        exact .inr ⟨front, chars, back, rfl, rfl, by simp [Nat.add_assoc]⟩

end Item

end SqlTemplate
