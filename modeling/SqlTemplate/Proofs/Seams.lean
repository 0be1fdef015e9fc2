import SqlTemplate.Proofs.Blocks
import SqlTemplate.Proofs.Texts

/-!
# Seams

Where a block is removed from a document, the text before it and the text after it are joined. The
joined text is not searched again, so a template has a block in it if its parts make one. They can
do so in one way only: by an opening marker that stands across a seam.
-/

namespace SqlTemplate

namespace Text

/-- Trimming spares whatever neither begins nor ends with a blank. -/
theorem infix_trim {part text : String} (trimmed : Trimmed part.toList)
    (nonempty : part.toList ≠ []) (occurs : part.toList <:+: text.toList) :
    part.toList <:+: (trim text).toList := by
  obtain ⟨front, back, split⟩ := occurs
  have around : text = String.ofList front ++ part ++ String.ofList back := by
    rw [← String.toList_inj]
    simp [← split]
  rw [around, toList_trim_append trimmed nonempty]
  exact ⟨_, _, rfl⟩

theorem trim_infix (text : String) : (trim text).toList <:+: text.toList := by
  have start := trimEnd_prefix (trimStart text.toList)
  rw [toList_trim]
  exact start.isInfix.trans (List.dropWhile_suffix _).isInfix

end Text

theorem HasBlock.mono {part text : List Char} (block : HasBlock part) (inside : part <:+: text) :
    HasBlock text := by
  obtain ⟨body, nonempty, occurs⟩ := block
  exact ⟨body, nonempty, occurs.trans inside⟩

theorem hasBlock_trim_iff {text : String} :
    HasBlock (Text.trim text).toList ↔ HasBlock text.toList := by
  constructor
  · intro block
    exact block.mono (Text.trim_infix text)
  · rintro ⟨body, nonempty, occurs⟩
    have trimmed : Text.Trimmed (blockOpen ++ (body ++ blockClose)) := by
      constructor
      · rintro c ⟨⟩
        decide
      · intro c last
        have slash : blockClose.getLast? = some '/' := by decide
        rw [← List.append_assoc, List.getLast?_append, slash] at last
        obtain rfl : '/' = c := Option.some.inj last
        decide
    have kept := @Text.infix_trim (String.ofList (blockOpen ++ (body ++ blockClose))) text
    simp only [String.toList_ofList] at kept
    exact ⟨body, nonempty, kept trimmed (List.cons_ne_nil _ _) occurs⟩

namespace Layout

/-- Whether the text around the blocks makes a block: up to some seam it ends with one part of an
opening marker, and from there on it goes on with the other part, a body and a closing marker. -/
def Rejoins (layout : Layout) : Prop :=
  ∃ earlier later front left right body back,
    layout.blocks = earlier ++ later ∧
    earlier.flatMap Block.before = front ++ left ∧
    later.flatMap Block.before ++ layout.rest = right ++ (body ++ (blockClose ++ back)) ∧
    left ++ right = blockOpen ∧ left ≠ [] ∧ right ≠ [] ∧ body ≠ []

theorem Rejoins.hasBlock {layout : Layout} (rejoins : layout.Rejoins) :
    HasBlock layout.template := by
  obtain ⟨earlier, later, front, left, right, body, back, blocks, before, after, marker, -, -,
    nonempty⟩ := rejoins
  refine ⟨body, nonempty, front, back, ?_⟩
  rw [template, blocks, List.flatMap_append, List.append_assoc _ _ layout.rest, before, after,
    ← marker]
  simp only [List.append_assoc]

theorem Rejoins.cons {blocks : List Block} {rest : List Char} (rejoins : Rejoins ⟨blocks, rest⟩)
    (block : Block) : Rejoins ⟨block :: blocks, rest⟩ := by
  obtain ⟨earlier, later, front, left, right, body, back, split, before, after, parts⟩ := rejoins
  refine ⟨block :: earlier, later, block.before ++ front, left, right, body, back, ?_, ?_, after,
    parts⟩
  · rw [List.cons_append]
    exact congrArg _ split
  · rw [List.flatMap_cons, before, List.append_assoc]

/-- An opening marker that is closed later, in the text around blocks, stands across a seam. -/
theorem rejoins_of_eq_append {blocks : List Block} {rest front body back : List Char}
    (proper : ∀ block ∈ blocks, block.Proper) (noBlock : ¬HasBlock rest) (nonempty : body ≠ [])
    (split : blocks.flatMap Block.before ++ rest =
      front ++ (blockOpen ++ (body ++ (blockClose ++ back)))) :
    Rejoins ⟨blocks, rest⟩ := by
  induction blocks generalizing front with
  | nil =>
    have whole : rest = front ++ (blockOpen ++ (body ++ blockClose)) ++ back := by
      simpa using split
    exact absurd ⟨body, nonempty, front, back, whole.symm⟩ noBlock
  | cons block blocks inductionHypothesis =>
    obtain ⟨first, others⟩ := List.forall_mem_cons.mp proper
    rw [List.flatMap_cons, List.append_assoc] at split
    rcases List.append_eq_append_iff.mp split with ⟨later, -, split⟩ | ⟨left, before, split⟩
    · exact (inductionHypothesis others split).cons block
    rcases List.append_eq_append_iff.mp split with ⟨more, whole, -⟩ | ⟨right, marker, after⟩
    · -- The text before a block holds no opening marker.
      refine absurd ⟨front, more, ?_⟩ first.before
      rw [before, whole, List.append_assoc]
    by_cases atSeam : left = []
    · rw [atSeam, List.nil_append] at marker
      rw [← marker, ← List.nil_append (blockOpen ++ _)] at after
      exact (inductionHypothesis others after).cons block
    by_cases beforeSeam : right = []
    · refine absurd ⟨front, [], ?_⟩ first.before
      rw [before, marker, beforeSeam]
      simp only [List.append_nil]
    · exact ⟨[block], blocks, front, left, right, body, back, rfl, by simp [before], after,
        marker.symm, atSeam, beforeSeam, nonempty⟩

theorem Divides.hasBlock_template_iff {layout : Layout} {document : List Char}
    (divides : layout.Divides document) : HasBlock layout.template ↔ layout.Rejoins := by
  constructor
  · rintro ⟨body, nonempty, front, back, split⟩
    have regrouped : layout.template =
        front ++ (blockOpen ++ (body ++ (blockClose ++ back))) := by
      rw [← split]
      simp only [List.append_assoc]
    exact rejoins_of_eq_append divides.blocks divides.rest nonempty regrouped
  · exact Rejoins.hasBlock

/-- Each block takes away more than nothing. -/
theorem length_template_add_le (layout : Layout) :
    layout.template.length + layout.blocks.length ≤ layout.text.length := by
  obtain ⟨blocks, rest⟩ := layout
  induction blocks with
  | nil => exact Nat.le_refl _
  | cons block blocks inductionHypothesis =>
    have marker : blockOpen.length = 9 := by decide
    simp only [template, text, Block.text, List.flatMap_cons, List.length_append,
      List.length_cons] at inductionHypothesis ⊢
    omega

end Layout

namespace Sections

theorem length_template_lt {document : String} (block : HasBlock document.toList) :
    (ofDocument document).template.toList.length < document.toList.length := by
  obtain ⟨layout, divides⟩ := Layout.exists_divides document.toList
  have someBlock : layout.blocks ≠ [] := by
    intro noBlocks
    apply divides.rest
    rwa [← divides.text, Layout.text, noBlocks] at block
  have trimmed := (Text.trim_infix (String.ofList layout.template)).length_le
  have shorter := layout.length_template_add_le
  have positive := List.length_pos_iff.mpr someBlock
  rw [divides.text] at shorter
  rw [String.toList_ofList] at trimmed
  rw [ofDocument_of_divides divides]
  dsimp only
  omega

/-- A trimmed text is a document without settings, and its own template, if it has no block. -/
theorem ofDocument_eq_self_iff {template : String} (trimmed : Text.Trimmed template.toList) :
    ofDocument template = ⟨"", template⟩ ↔ ¬HasBlock template.toList := by
  constructor
  · intro unchanged block
    have shorter := length_template_lt block
    rw [unchanged] at shorter
    exact absurd shorter (Nat.lt_irrefl _)
  · intro noBlock
    rw [ofDocument_of_not_hasBlock noBlock, trimmed.trim_eq]

/-- The blocks of a document are removed all at once. This leaves a block in the template exactly
if the text around them makes one, by an opening marker that stands across a seam. In all other
cases the template is a document without settings, and its own template. -/
theorem leftover_blocks_stand_across_seams (document : String) :
    ∃ layout : Layout, layout.Divides document.toList ∧
      let template := (ofDocument document).template
      template = Text.trim (String.ofList layout.template) ∧
      (HasBlock template.toList ↔ layout.Rejoins) ∧
      (ofDocument template = ⟨"", template⟩ ↔ ¬layout.Rejoins) := by
  obtain ⟨layout, divides⟩ := Layout.exists_divides document.toList
  have removed : (ofDocument document).template = Text.trim (String.ofList layout.template) := by
    rw [ofDocument_of_divides divides]
  have leftover : HasBlock (ofDocument document).template.toList ↔ layout.Rejoins := by
    rw [removed, hasBlock_trim_iff, String.toList_ofList]
    exact divides.hasBlock_template_iff
  have trimmed : Text.Trimmed (ofDocument document).template.toList := Text.trimmed_trim _
  have unchanged := (ofDocument_eq_self_iff trimmed).trans (not_congr leftover)
  exact ⟨layout, divides, removed, leftover, unchanged⟩

/-- A block within an opening marker: when it is removed, the marker opens another one. -/
theorem blocks_can_be_left_over :
    let document := "/* pg/* pgxsql a pgxsql */xsql b pgxsql */"
    let template := "/* pgxsql b pgxsql */"
    ofDocument document = ⟨"a", template⟩ ∧ HasBlock template.toList ∧
      ofDocument template = ⟨"b", ""⟩ ∧ ofDocument template ≠ ⟨"", template⟩ := by
  intro document template
  have again : ofDocument template = ⟨"b", ""⟩ := by decide +kernel
  refine ⟨by decide +kernel, ⟨" b ".toList, by decide, [], [], by decide⟩, again, ?_⟩
  rw [again]
  decide

end Sections

end SqlTemplate
