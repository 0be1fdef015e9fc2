import SqlTemplate.Proofs.Items

/-!
# Scanning items

Between two items a scan remembers at most something that the next character leaves complete. Each
item takes the scan from such a place to the next one and adds its text, or its placeholder, to
what has been found.
-/

namespace SqlTemplate

/-- Whether what a mode remembers is complete before `next`, the next character if there is one. -/
def Mode.EndsBefore : Mode → Option Char → Prop
  | text, _ => True
  | letterE, next => next ≠ some '\''
  | colon, next => next ≠ some ':' ∧ ∀ c ∈ next, ¬isNameChar c
  | name, next => ∀ c ∈ next, ¬isNameChar c
  | inside _, _ | escaped, _ => False
  | closing quote, next => next ≠ some quote.mark

/-- The token of the characters that belong to no token yet, given latest first. -/
def Token.ofPending (pending : List Char) : List Token :=
  if pending.isEmpty then [] else [.text (String.ofList pending.reverse)]

@[simp] theorem Token.joined_ofPending (pending : List Char) :
    joined (ofPending pending) = ofPending pending := by
  unfold ofPending
  split <;> rfl

theorem Token.joined_ofPending_append (pending added : List Char) (tokens : List Token)
    (nonempty : added ≠ []) :
    joined (ofPending (added.reverse ++ pending) ++ tokens) =
      joined (ofPending pending ++ .text (String.ofList added) :: tokens) := by
  cases pending with
  | nil => simp [ofPending, nonempty]
  | cons c pending =>
    simp [ofPending, text_prepend_text_prepend, ← String.ofList_append]

theorem Token.joined_ofPending_placeholder (pending : List Char) (name : String)
    (tokens : List Token) :
    joined (ofPending pending ++ .placeholder name :: tokens) =
      ofPending pending ++ .placeholder name :: joined tokens := by
  unfold ofPending
  split <;> simp

namespace Scan

/-- What is reported if the template ends here. -/
def reading (s : Scan) : Reading :=
  ⟨s.finish.tokens.reverse, s.finish.findings.reverse⟩

/-- Settles what the mode remembers, where it is complete. -/
def settled (s : Scan) : Scan :=
  match s.mode with
  | .colon => s.endMarker
  | .name => s.endName
  | _ => { s with mode := .text }

/-- What is reported if the template goes on with the given items. -/
def before (s : Scan) (items : List Item) : Reading :=
  ⟨s.settled.tokens.reverse ++
      Token.joined (Token.ofPending s.settled.pending ++ items.map Item.token),
    s.settled.findings.reverse ++ Item.findings s.offset items⟩

theorem tokens_endText (s : Scan) :
    s.endText.tokens.reverse = s.tokens.reverse ++ Token.ofPending s.pending := by
  unfold endText Token.ofPending
  split <;> simp

@[simp] theorem pending_endText (s : Scan) : s.endText.pending = [] := by
  unfold endText
  split
  · next empty => exact List.isEmpty_iff.mp empty
  · rfl

@[simp] theorem findings_endText (s : Scan) : s.endText.findings = s.findings := by
  unfold endText
  split <;> rfl

@[simp] theorem offset_endText (s : Scan) : s.endText.offset = s.offset := by
  unfold endText
  split <;> rfl

@[simp] theorem offset_settled (s : Scan) : s.settled.offset = s.offset := by
  unfold settled
  split
  · simp [endMarker]
  · rfl
  · rfl

theorem endText_place (s : Scan) (mode : Mode) (offset : Nat) :
    { s with mode := mode, offset := offset }.endText =
      { s.endText with mode := mode, offset := offset } := by
  unfold endText
  dsimp only
  split <;> rfl

theorem take_of_endsBefore {s : Scan} {c : Char} (complete : s.mode.EndsBefore (some c)) :
    s.take c = s.settled.begin c := by
  have ignoresMode (t : Scan) (mode : Mode) : { t with mode := mode }.begin c = t.begin c := by
    unfold begin
    cases Mode.start c <;> rfl
  cases mode : s.mode with
  | text => simp [take, settled, mode, ignoresMode]
  | letterE =>
    have noQuote : c ≠ '\'' := by simpa [Mode.EndsBefore, mode] using complete
    simp [take, settled, mode, noQuote, ignoresMode]
  | colon =>
    have noName : c ≠ ':' ∧ ¬isNameChar c := by simpa [Mode.EndsBefore, mode] using complete
    simp [take, settled, mode, noName]
  | name =>
    have noName : ¬isNameChar c := by simpa [Mode.EndsBefore, mode] using complete
    simp [take, settled, mode, noName]
  | inside quote => simp [Mode.EndsBefore, mode] at complete
  | escaped => simp [Mode.EndsBefore, mode] at complete
  | closing quote =>
    have noMark : c ≠ quote.mark := by simpa [Mode.EndsBefore, mode] using complete
    simp [take, settled, mode, noMark, ignoresMode]

theorem reading_of_endsBefore {s : Scan} (complete : s.mode.EndsBefore none) :
    s.reading = s.before [] := by
  cases mode : s.mode with
  | text | letterE | closing quote =>
    simp [reading, before, finish, settled, mode, tokens_endText, Item.findings]
  | colon =>
    simp [reading, before, finish, settled, mode, endMarker, Item.findings, Token.ofPending]
  | name => simp [reading, before, finish, settled, mode, endName, Item.findings, Token.ofPending]
  | inside quote => simp [Mode.EndsBefore, mode] at complete
  | escaped => simp [Mode.EndsBefore, mode] at complete

/-- The scan that has taken up `text` as a part of the token to come. -/
def extended (s : Scan) (mode : Mode) (text : List Char) : Scan :=
  { s with
    mode := mode
    pending := text.reverse ++ s.pending
    offset := s.offset + Text.bytes text }

@[simp] theorem extended_extended (s : Scan) (mode final : Mode) (first second : List Char) :
    (s.extended mode first).extended final second = s.extended final (first ++ second) := by
  simp [extended, Nat.add_assoc]

theorem extended_nil {s : Scan} {mode : Mode} (same : s.mode = mode) :
    s.extended mode [] = s := by
  subst same
  rfl

theorem step_inside {s : Scan} {quote : Quote} (inside : s.mode = .inside quote) (c : Char) :
    s.step c = s.extended (.within quote c) [c] := by
  simp [step, take, inside, push, extended]

theorem step_closing {s : Scan} {quote : Quote} (closing : s.mode = .closing quote) :
    s.step quote.mark = s.extended (.inside quote) [quote.mark] := by
  simp [step, take, closing, push, extended]

theorem step_escaped {s : Scan} (escaped : s.mode = .escaped) (c : Char) :
    s.step c = s.extended (.inside .escapeString) [c] := by
  simp [step, take, escaped, push, extended]

@[simp] theorem within_mark (quote : Quote) : Mode.within quote quote.mark = .closing quote := by
  cases quote <;> rfl

theorem run_body {quote : Quote} {body : List Char} (valid : quote.Body body) {s : Scan}
    (inside : s.mode = .inside quote) : s.run body = s.extended (.inside quote) body := by
  induction valid generalizing s with
  | nil => exact (extended_nil inside).symm
  | doubled valid inductionHypothesis =>
    rw [run_cons, run_cons, step_inside inside, within_mark, step_closing (by rfl),
      inductionHypothesis (by rfl)]
    simp
  | @escaped c body escapes valid inductionHypothesis =>
    subst escapes
    rw [run_cons, run_cons, step_inside inside, step_escaped (by rfl),
      inductionHypothesis (by rfl)]
    simp
  | @plain c body noMark noBackslash valid inductionHypothesis =>
    have stays : Mode.within quote c = .inside quote := by
      unfold Mode.within
      rw [if_neg fun both => noBackslash both.1 both.2, if_neg noMark]
    rw [run_cons, step_inside inside, stays, inductionHypothesis (by rfl)]
    simp

theorem run_name {name : List Char} (valid : ∀ c ∈ name, isNameChar c) {s : Scan}
    (inName : s.mode = .name) : s.run name = s.extended .name name := by
  induction name generalizing s with
  | nil => exact (extended_nil inName).symm
  | cons c name inductionHypothesis =>
    have step : s.step c = s.extended .name [c] := by
      simp [Scan.step, take, inName, valid c List.mem_cons_self, push, extended]
    rw [run_cons, step, inductionHypothesis (fun d member => valid d (.tail c member)) (by rfl)]
    simp

theorem step_of_endsBefore {s : Scan} {c : Char} (complete : s.mode.EndsBefore (some c)) :
    s.step c = { s.settled.begin c with offset := s.offset + c.utf8Size } := by
  rw [step, take_of_endsBefore complete]

theorem step_plain {s : Scan} {c : Char} (complete : s.mode.EndsBefore (some c))
    (noApostrophe : c ≠ '\'') (noDoubleQuote : c ≠ '"') (noColon : c ≠ ':') :
    s.step c = s.settled.extended (if c = 'e' ∨ c = 'E' then .letterE else .text) [c] := by
  rw [step_of_endsBefore complete]
  by_cases letter : c = 'e' ∨ c = 'E'
  · simp [begin, Mode.start, letter, push, extended]
  · simp [begin, Mode.start, letter, noApostrophe, noDoubleQuote, noColon, push, extended]

theorem step_colon {s : Scan} (complete : s.mode.EndsBefore (some ':')) :
    s.step ':' = { s.settled with mode := .colon, offset := s.offset + ':'.utf8Size } := by
  rw [step_of_endsBefore complete]
  rfl

theorem run_placeholder {s : Scan} {c : Char} {name : List Char}
    (complete : s.mode.EndsBefore (some ':')) (valid : ∀ d ∈ c :: name, isNameChar d) :
    s.run (':' :: c :: name) =
      { s.settled.endText with
        mode := .name
        pending := (c :: name).reverse
        offset := s.offset + Text.bytes (':' :: c :: name) } := by
  have inName : isNameChar c := valid c List.mem_cons_self
  have noColon : c ≠ ':' := by
    rintro rfl
    exact absurd inName (by decide)
  -- The colon alone leaves the text before it open; the first character of the name ends it.
  have first : (s.step ':').step c =
      { s.settled.endText with
        mode := .name
        pending := [c]
        offset := s.offset + Text.bytes [':', c] } := by
    rw [step_colon complete]
    simp [step, take, noColon, inName, push, endText_place, Nat.add_assoc]
  rw [run_cons, run_cons, first, run_name (fun d member => valid d (.tail c member)) (by rfl)]
  simp [extended, Nat.add_assoc]

/-- The scan after an opener that follows an item. -/
def opening (s : Scan) (opener : Opener) : Scan :=
  { s.settled.extended (.inside opener.quote) opener.text with opened := s.offset }

theorem run_opener {s : Scan} {opener : Opener}
    (complete : s.mode.EndsBefore (some opener.first)) : s.run opener.text = s.opening opener := by
  cases opener with
  | apostrophe | doubleQuote =>
    simp only [Opener.first] at complete
    rw [Opener.text, run_cons, step_of_endsBefore complete]
    simp [opening, begin, Mode.start, push, extended, Opener.text, Opener.quote]
  | smallE | capitalE =>
    simp only [Opener.first] at complete
    rw [Opener.text, run_cons, step_plain complete (by decide) (by decide) (by decide)]
    simp [opening, step, take, push, extended, Opener.text, Opener.quote, Nat.add_assoc]
    rfl

theorem run_quoted {s : Scan} {opener : Opener} {body : List Char}
    (complete : s.mode.EndsBefore (some opener.first)) (valid : opener.quote.Body body) :
    s.run (opener.text ++ body) =
      { s.settled.extended (.inside opener.quote) (opener.text ++ body) with
        opened := s.offset } := by
  rw [run_append, run_opener complete, run_body valid (by rfl)]
  simp [opening, extended, Nat.add_assoc]

/-- What an item adds if it is text: its characters, and no finding. -/
theorem before_of_settled_eq {s t : Scan} {item : Item} {mode : Mode} {opened : Nat}
    (settled : t.settled = { s.settled.extended mode item.text with opened := opened })
    (token : item.token = .text (String.ofList item.text))
    (noFinding : item.finding? s.offset = none) (items : List Item) :
    t.before items = s.before (item :: items) := by
  have offset : t.offset = s.offset + Text.bytes item.text := by
    rw [← offset_settled, settled]
    simp [extended]
  unfold before
  rw [offset, settled]
  simp only [extended, Token.joined_ofPending_append _ _ _ item.text_ne_nil, List.map_cons, token,
    Item.findings, noFinding, Option.toList_none, List.nil_append]

/-- What an item adds if it is a placeholder: its name, after the text before it. -/
theorem before_of_settled_tokens_eq {s t : Scan} {name : List Char}
    (tokens : t.settled.tokens = .placeholder (String.ofList name) :: s.settled.endText.tokens)
    (pending : t.settled.pending = [])
    (findings : t.settled.findings =
      ((Item.placeholder name).finding? s.offset).toList ++ s.settled.findings)
    (offset : t.offset = s.offset + Text.bytes (Item.placeholder name).text) (items : List Item) :
    t.before items = s.before (.placeholder name :: items) := by
  have reversed (finding : Option Finding) : finding.toList.reverse = finding.toList := by
    cases finding <;> rfl
  unfold before
  rw [tokens, pending, findings, offset]
  simp only [List.map_cons, Item.token, Item.findings, Token.joined_ofPending_placeholder,
    List.reverse_cons, List.reverse_append, reversed, tokens_endText, List.append_assoc]
  rfl

theorem run_item {s : Scan} {item : Item} {next : Option Char}
    (complete : s.mode.EndsBefore (some item.first)) (fits : item.Fits next)
    (closed : ∀ opener body, item ≠ .unclosed opener body) (items : List Item) :
    (s.run item.text).mode.EndsBefore next ∧
      (s.run item.text).before items = s.before (item :: items) := by
  cases item with
  | quoted opener body =>
    have scanned : s.run (Item.quoted opener body).text =
        { s.settled.extended (.closing opener.quote) (Item.quoted opener body).text with
          opened := s.offset } := by
      rw [Item.text, ← List.append_assoc, run_append, run_quoted complete fits.1, run_cons,
        step_inside (by rfl), within_mark]
      simp [extended, Nat.add_assoc]
    rw [scanned]
    exact ⟨fits.2, before_of_settled_eq rfl rfl rfl items⟩
  | unclosed opener body => exact absurd rfl (closed opener body)
  | cast =>
    have scanned : s.run Item.cast.text = s.settled.extended .text Item.cast.text := by
      rw [Item.text, run_cons, step_colon complete]
      simp [step, take, push, extended, Nat.add_assoc]
    rw [scanned]
    exact ⟨trivial, before_of_settled_eq rfl rfl rfl items⟩
  | placeholder name =>
    cases name with
    | nil =>
      have scanned : s.run (Item.placeholder []).text =
          { s.settled with mode := .colon, offset := s.offset + ':'.utf8Size } :=
        step_colon complete
      rw [scanned]
      have offset : s.offset + ':'.utf8Size - 1 = s.offset := Nat.add_sub_cancel s.offset 1
      refine ⟨⟨fits.2.2 rfl, fits.2.1⟩, before_of_settled_tokens_eq ?_ ?_ ?_ rfl items⟩
      all_goals simp [settled, endMarker, endText_place, offset, Item.finding?]
    | cons c name =>
      have scanned : s.run (Item.placeholder (c :: name)).text = _ :=
        run_placeholder complete fits.1
      rw [scanned]
      refine ⟨fits.2.1, before_of_settled_tokens_eq ?_ ?_ ?_ rfl items⟩
      all_goals simp [settled, endName, Item.finding?]
  | plain c =>
    obtain ⟨noApostrophe, noDoubleQuote, noColon, noOpener⟩ := fits
    have scanned : s.run (Item.plain c).text = _ :=
      step_plain complete noApostrophe noDoubleQuote noColon
    rw [scanned]
    by_cases letter : c = 'e' ∨ c = 'E'
    · rw [if_pos letter]
      exact ⟨noOpener letter, before_of_settled_eq rfl rfl rfl items⟩
    · rw [if_neg letter]
      exact ⟨trivial, before_of_settled_eq rfl rfl rfl items⟩

theorem reading_endQuoted (s : Scan) (opener : Opener) (body : List Char) (mode : Mode) :
    let t : Scan :=
      { s.settled.extended mode (opener.text ++ body) with opened := s.offset }
    (⟨(t.endQuoted opener.quote).tokens.reverse, (t.endQuoted opener.quote).findings.reverse⟩ :
      Reading) = s.before [.unclosed opener body] := by
  have nonempty : opener.text ++ body ≠ [] := (Item.unclosed opener body).text_ne_nil
  have tokens := Token.joined_ofPending_append s.settled.pending (opener.text ++ body) [] nonempty
  rw [List.append_nil, Token.joined_ofPending] at tokens
  simp [endQuoted, before, tokens_endText, extended, Item.token, Item.text, Item.findings,
    Item.finding?] at tokens ⊢
  exact tokens

theorem reading_unclosed {s : Scan} {opener : Opener} {body : List Char}
    (complete : s.mode.EndsBefore (some opener.first)) (valid : opener.quote.OpenBody body) :
    (s.run (Item.unclosed opener body).text).reading = s.before [.unclosed opener body] := by
  cases valid with
  | body valid =>
    rw [Item.text, run_quoted complete valid,
      ← reading_endQuoted s opener body (.inside opener.quote)]
    rfl
  | @backslash body escapes valid =>
    have scanned : s.run (opener.text ++ (body ++ ['\\'])) =
        { s.settled.extended .escaped (opener.text ++ (body ++ ['\\'])) with
          opened := s.offset } := by
      rw [← List.append_assoc, run_append, run_quoted complete valid, run_cons,
        step_inside (by rfl), escapes]
      simp [extended, Mode.within, Nat.add_assoc]
    rw [Item.text, scanned, ← reading_endQuoted s opener (body ++ ['\\']) .escaped, escapes]
    rfl

/-- A scan that stands between two items reads the items to come. -/
theorem reading_run_textOf {items : List Item} {s : Scan}
    (complete : s.mode.EndsBefore (Item.firstOf items none)) (fit : Item.AllFit items none) :
    (s.run (Item.textOf items)).reading = s.before items := by
  induction items generalizing s with
  | nil => exact reading_of_endsBefore complete
  | cons item items inductionHypothesis =>
    by_cases closed : ∀ opener body, item ≠ .unclosed opener body
    · obtain ⟨ends, grows⟩ := run_item complete fit.1 closed items
      rw [Item.textOf_cons, run_append, ← grows]
      exact inductionHypothesis ends fit.2
    · simp only [ne_eq, Classical.not_forall, Classical.not_not] at closed
      obtain ⟨opener, body, rfl⟩ := closed
      obtain rfl : items = [] := (Item.firstOf_eq_none_iff.mp fit.1.2).1
      rw [Item.textOf_cons, Item.textOf_nil, List.append_nil]
      exact reading_unclosed complete fit.1.1

end Scan

/-- A template is read as the items that make it up. -/
theorem Reading.ofTemplate_of_reads {template : String} {items : List Item}
    (reads : Item.Reads items template.toList) :
    Reading.ofTemplate template =
      ⟨Token.joined (items.map Item.token), Item.findings 0 items⟩ := by
  have scanned : Reading.ofTemplate template = (Scan.run {} template.toList).reading := rfl
  have start : (Scan.mode {}).EndsBefore (Item.firstOf items none) := trivial
  rw [scanned, ← reads.text, Scan.reading_run_textOf start reads.fit]
  rfl

end SqlTemplate
