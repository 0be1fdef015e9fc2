import Mathlib.Logic.ExistsUnique
import Mathlib.Tactic.SplitIfs
import SqlTemplate.Proofs.Scanning

/-!
# The reading of a text

Every text has exactly one reading as a sequence of items. Its first item is found by looking at
its first one or two characters and, for quoted text, for the quote that closes it.
-/

namespace SqlTemplate

/-- The text before the closing quote and the text after it, if the quote is closed. -/
def Quote.close? (quote : Quote) : List Char → Option (List Char × List Char)
  | [] => none
  | [c] => if c = quote.mark then some ([], []) else none
  | c :: d :: rest =>
    if quote = .escapeString ∧ c = '\\' then
      (close? quote rest).map fun (body, after) => (c :: d :: body, after)
    else if c ≠ quote.mark then
      (close? quote (d :: rest)).map fun (body, after) => (c :: body, after)
    else if d = quote.mark then
      (close? quote rest).map fun (body, after) => (c :: d :: body, after)
    else some ([], d :: rest)

namespace Quote

theorem mark_ne_backslash (quote : Quote) : quote.mark ≠ '\\' := by
  cases quote <;> decide

theorem close?_plain_cons {quote : Quote} {c : Char} (noMark : c ≠ quote.mark)
    (noBackslash : quote = .escapeString → c ≠ '\\') (text : List Char) :
    quote.close? (c :: text) =
      (quote.close? text).map fun (body, after) => (c :: body, after) := by
  cases text with
  | nil => simp [close?, noMark]
  | cons d rest =>
    have noEscape : ¬(quote = .escapeString ∧ c = '\\') := fun both => noBackslash both.1 both.2
    rw [close?, if_neg noEscape, if_pos noMark]

/-- The closing quote of a body and a text is that of the text. -/
theorem close?_body_append {quote : Quote} {body : List Char} (valid : quote.Body body)
    (text : List Char) :
    quote.close? (body ++ text) =
      (quote.close? text).map fun (inner, after) => (body ++ inner, after) := by
  induction valid with
  | nil => simp
  | doubled valid inductionHypothesis =>
    simp [close?, mark_ne_backslash, inductionHypothesis, Function.comp_def]
  | escaped escapes valid inductionHypothesis =>
    simp [close?, escapes] at inductionHypothesis ⊢
    simp [inductionHypothesis, Function.comp_def]
  | plain noMark noBackslash valid inductionHypothesis =>
    rw [List.cons_append, close?_plain_cons noMark noBackslash, inductionHypothesis]
    simp [Function.comp_def]

theorem close?_mark_cons {quote : Quote} {after : List Char}
    (single : after.head? ≠ some quote.mark) :
    quote.close? (quote.mark :: after) = some ([], after) := by
  cases after with
  | nil => simp [close?]
  | cons d rest =>
    have different : d ≠ quote.mark := fun same => single (congrArg some same)
    simp [close?, mark_ne_backslash, different]

theorem close?_of_body {quote : Quote} {body after : List Char} (valid : quote.Body body)
    (single : after.head? ≠ some quote.mark) :
    quote.close? (body ++ quote.mark :: after) = some (body, after) := by
  rw [close?_body_append valid, close?_mark_cons single]
  simp

theorem close?_of_openBody {quote : Quote} {body : List Char} (valid : quote.OpenBody body) :
    quote.close? body = none := by
  cases valid with
  | body valid =>
    have closed := close?_body_append valid []
    rwa [List.append_nil] at closed
  | backslash escapes valid =>
    rw [close?_body_append valid, escapes]
    rfl

theorem close?_sound {quote : Quote} {text body after : List Char}
    (found : quote.close? text = some (body, after)) :
    text = body ++ quote.mark :: after ∧ quote.Body body ∧ after.head? ≠ some quote.mark := by
  fun_induction close? quote text generalizing body after with
  | case1 => cases found
  | case2 =>
    obtain ⟨rfl, rfl⟩ := Prod.mk.inj (Option.some.inj found)
    exact ⟨rfl, .nil, nofun⟩
  | case3 => cases found
  | case4 c d rest escapes inductionHypothesis =>
    obtain ⟨⟨inner, rest'⟩, closed, same⟩ := Option.map_eq_some_iff.mp found
    obtain ⟨rfl, rfl⟩ := Prod.mk.inj same
    obtain ⟨rfl, valid, single⟩ := inductionHypothesis closed
    obtain ⟨isEscape, rfl⟩ := escapes
    exact ⟨rfl, .escaped isEscape valid, single⟩
  | case5 c d rest noEscape noMark inductionHypothesis =>
    obtain ⟨⟨inner, rest'⟩, closed, same⟩ := Option.map_eq_some_iff.mp found
    obtain ⟨rfl, rfl⟩ := Prod.mk.inj same
    obtain ⟨split, valid, single⟩ := inductionHypothesis closed
    rw [split]
    exact ⟨rfl, .plain noMark (not_and.mp noEscape) valid, single⟩
  | case6 c rest noEscape mark inductionHypothesis =>
    obtain rfl : c = quote.mark := Classical.not_not.mp mark
    obtain ⟨⟨inner, rest'⟩, closed, same⟩ := Option.map_eq_some_iff.mp found
    obtain ⟨rfl, rfl⟩ := Prod.mk.inj same
    obtain ⟨rfl, valid, single⟩ := inductionHypothesis closed
    exact ⟨rfl, .doubled valid, single⟩
  | case7 c d rest noEscape mark different =>
    obtain rfl : c = quote.mark := Classical.not_not.mp mark
    obtain ⟨rfl, rfl⟩ := Prod.mk.inj (Option.some.inj found)
    exact ⟨rfl, .nil, fun same => different (Option.some.inj same)⟩

theorem OpenBody.append_left {quote : Quote} {front rest : List Char}
    (extend : ∀ body, quote.Body body → quote.Body (front ++ body)) (valid : quote.OpenBody rest) :
    quote.OpenBody (front ++ rest) := by
  cases valid with
  | body valid => exact .body (extend _ valid)
  | backslash escapes valid =>
    rw [← List.append_assoc]
    exact .backslash escapes (extend _ valid)

theorem openBody_of_close? {quote : Quote} {text : List Char}
    (unclosed : quote.close? text = none) : quote.OpenBody text := by
  fun_induction close? quote text with
  | case1 => exact .body .nil
  | case2 => cases unclosed
  | case3 c noMark =>
    by_cases backslash : quote = .escapeString ∧ c = '\\'
    · obtain ⟨isEscape, rfl⟩ := backslash
      exact @OpenBody.backslash quote [] isEscape .nil
    · exact .body (.plain noMark (not_and.mp backslash) .nil)
  | case4 c d rest escapes inductionHypothesis =>
    obtain ⟨isEscape, rfl⟩ := escapes
    have escaped (body : List Char) (valid : quote.Body body) : quote.Body (['\\', d] ++ body) :=
      .escaped isEscape valid
    exact (inductionHypothesis (Option.map_eq_none_iff.mp unclosed)).append_left escaped
  | case5 c d rest noEscape noMark inductionHypothesis =>
    have plain (body : List Char) (valid : quote.Body body) : quote.Body ([c] ++ body) :=
      .plain noMark (not_and.mp noEscape) valid
    exact (inductionHypothesis (Option.map_eq_none_iff.mp unclosed)).append_left plain
  | case6 c rest noEscape mark inductionHypothesis =>
    obtain rfl : c = quote.mark := Classical.not_not.mp mark
    have doubled (body : List Char) (valid : quote.Body body) :
        quote.Body ([quote.mark, quote.mark] ++ body) := .doubled valid
    exact (inductionHypothesis (Option.map_eq_none_iff.mp unclosed)).append_left doubled
  | case7 c d rest noEscape mark different => cases unclosed

end Quote

namespace Item

/-- Quoted text and what follows it, where `inner` is what follows its opener. -/
def ofOpener (opener : Opener) (inner : List Char) : Item × List Char :=
  match opener.quote.close? inner with
  | some (body, after) => (quoted opener body, after)
  | none => (unclosed opener inner, [])

/-- The first item of a text that begins with `c`, and what follows it. -/
def take (c : Char) (rest : List Char) : Item × List Char :=
  if c = '\'' then ofOpener .apostrophe rest
  else if c = '"' then ofOpener .doubleQuote rest
  else if c = ':' then
    if rest.head? = some ':' then (cast, rest.tail)
    else (placeholder (rest.takeWhile isNameChar), rest.dropWhile isNameChar)
  else if c = 'e' ∧ rest.head? = some '\'' then ofOpener .smallE rest.tail
  else if c = 'E' ∧ rest.head? = some '\'' then ofOpener .capitalE rest.tail
  else (plain c, rest)

theorem ofOpener_sound (opener : Opener) (inner : List Char) :
    (ofOpener opener inner).1.text ++ (ofOpener opener inner).2 = opener.text ++ inner ∧
      (ofOpener opener inner).1.Fits (ofOpener opener inner).2.head? := by
  unfold ofOpener
  split
  · next body after closed =>
    obtain ⟨split, valid, single⟩ := Quote.close?_sound closed
    rw [split]
    exact ⟨by simp [text], valid, single⟩
  · next unclosed => exact ⟨by simp [text], Quote.openBody_of_close? unclosed, rfl⟩

theorem exists_tail {text : List Char} {c : Char} (head : text.head? = some c) :
    text = c :: text.tail := by
  cases text with
  | nil => cases head
  | cons d rest => rw [Option.some.inj head, List.tail_cons]

theorem take_sound (c : Char) (rest : List Char) :
    (take c rest).1.text ++ (take c rest).2 = c :: rest ∧
      (take c rest).1.Fits (take c rest).2.head? := by
  unfold take
  split_ifs with apostrophe doubleQuote colon pair smallE capitalE
  · subst apostrophe
    exact ofOpener_sound .apostrophe rest
  · subst doubleQuote
    exact ofOpener_sound .doubleQuote rest
  · subst colon
    exact ⟨congrArg _ (exists_tail pair).symm, trivial⟩
  · subst colon
    refine ⟨congrArg _ List.takeWhile_append_dropWhile, ?_, Text.not_of_mem_head?_dropWhile, ?_⟩
    · exact List.all_eq_true.mp List.all_takeWhile
    · intro nameless head
      have whole := @List.takeWhile_append_dropWhile _ isNameChar rest
      rw [nameless, List.nil_append] at whole
      exact pair (whole ▸ head)
  · obtain ⟨rfl, head⟩ := smallE
    rw [exists_tail head]
    exact ofOpener_sound .smallE rest.tail
  · obtain ⟨rfl, head⟩ := capitalE
    rw [exists_tail head]
    exact ofOpener_sound .capitalE rest.tail
  · refine ⟨rfl, apostrophe, doubleQuote, colon, ?_⟩
    rintro (rfl | rfl) head
    · exact smallE ⟨rfl, head⟩
    · exact capitalE ⟨rfl, head⟩

theorem take_opener (opener : Opener) (inner : List Char) :
    ∃ rest, opener.text ++ inner = opener.first :: rest ∧
      take opener.first rest = ofOpener opener inner := by
  cases opener <;> exact ⟨_, rfl, rfl⟩

theorem take_of_fits {item : Item} {after : List Char} (fits : item.Fits after.head?) :
    ∃ rest, item.text ++ after = item.first :: rest ∧ take item.first rest = (item, after) := by
  cases item with
  | quoted opener body =>
    obtain ⟨rest, split, taken⟩ := take_opener opener (body ++ opener.quote.mark :: after)
    have closed := Quote.close?_of_body fits.1 fits.2
    refine ⟨rest, by simpa [text, first] using split, ?_⟩
    rw [first, taken, ofOpener, closed]
  | unclosed opener body =>
    obtain rfl : after = [] := List.head?_eq_none_iff.mp fits.2
    obtain ⟨rest, split, taken⟩ := take_opener opener body
    refine ⟨rest, by simpa [text, first] using split, ?_⟩
    rw [first, taken, ofOpener, Quote.close?_of_openBody fits.1]
  | cast => exact ⟨':' :: after, rfl, rfl⟩
  | placeholder name =>
    obtain ⟨valid, ends, nameless⟩ := fits
    have noPair : (name ++ after).head? ≠ some ':' := by
      cases name with
      | nil => exact nameless rfl
      | cons c name =>
        rintro head
        obtain rfl : c = ':' := Option.some.inj head
        exact absurd (valid ':' List.mem_cons_self) (by decide)
    refine ⟨name ++ after, rfl, ?_⟩
    rw [first, take, if_neg (by decide), if_neg (by decide), if_pos rfl, if_neg noPair,
      List.takeWhile_append_of_pos valid, List.dropWhile_append_of_pos valid,
      Text.takeWhile_eq_nil ends, Text.dropWhile_eq_self ends, List.append_nil]
  | plain c =>
    obtain ⟨noApostrophe, noDoubleQuote, noColon, noOpener⟩ := fits
    have noSmallE : ¬(c = 'e' ∧ after.head? = some '\'') := fun both =>
      noOpener (.inl both.1) both.2
    have noCapitalE : ¬(c = 'E' ∧ after.head? = some '\'') := fun both =>
      noOpener (.inr both.1) both.2
    refine ⟨after, rfl, ?_⟩
    simp only [first, take, noApostrophe, noDoubleQuote, noColon, noSmallE, noCapitalE, if_false]

theorem exists_reads (template : List Char) : ∃ items, Reads items template := by
  match template with
  | [] => exact ⟨[], rfl, trivial⟩
  | c :: rest =>
    obtain ⟨split, fits⟩ := take_sound c rest
    have shorter : (take c rest).2.length < (c :: rest).length := by
      have nonempty := List.length_pos_iff.mpr (take c rest).1.text_ne_nil
      rw [← split, List.length_append]
      omega
    obtain ⟨items, text, fit⟩ := exists_reads (take c rest).2
    rw [← text, head?_textOf] at fits
    refine ⟨(take c rest).1 :: items, ?_, fits, fit⟩
    rw [textOf_cons, text, split]
termination_by template.length
decreasing_by exact shorter

theorem Reads.take_eq {item : Item} {items : List Item} {template : List Char}
    (reads : Reads (item :: items) template) :
    ∃ rest, template = item.first :: rest ∧ take item.first rest = (item, textOf items) := by
  have fits : item.Fits (textOf items).head? := head?_textOf items ▸ reads.fit.1
  obtain ⟨rest, split, taken⟩ := take_of_fits fits
  refine ⟨rest, ?_, taken⟩
  rw [← split, ← reads.text, textOf_cons]

theorem Reads.unique {items others : List Item} {template : List Char}
    (reads : Reads items template) (otherReads : Reads others template) : items = others := by
  induction items generalizing others template with
  | nil =>
    obtain rfl : [] = template := reads.text
    cases others with
    | nil => rfl
    | cons other others =>
      obtain ⟨_, split, _⟩ := otherReads.take_eq
      cases split
  | cons item items inductionHypothesis =>
    obtain ⟨rest, split, taken⟩ := reads.take_eq
    cases others with
    | nil =>
      obtain rfl : [] = template := otherReads.text
      cases split
    | cons other others =>
      -- Both readings begin with what is taken from the same text.
      obtain ⟨otherRest, otherSplit, otherTaken⟩ := otherReads.take_eq
      obtain ⟨sameFirst, rfl⟩ := List.cons.inj (split.symm.trans otherSplit)
      rw [sameFirst, otherTaken] at taken
      obtain ⟨rfl, sameText⟩ := Prod.mk.inj taken
      rw [inductionHypothesis ⟨rfl, reads.fit.2⟩ ⟨sameText, otherReads.fit.2⟩]

end Item

/-- Every template has exactly one reading as a sequence of items, and its tokens are those of the
items, each maximal run of text being one token. -/
theorem Reading.tokens_eq_joined_items (template : String) :
    (∃! items, Item.Reads items template.toList) ∧
      ∀ items, Item.Reads items template.toList →
        (Reading.ofTemplate template).tokens = Token.joined (items.map Item.token) := by
  constructor
  · obtain ⟨items, reads⟩ := Item.exists_reads template.toList
    exact ⟨items, reads, fun others otherReads => otherReads.unique reads⟩
  · intro items reads
    rw [Reading.ofTemplate_of_reads reads]

/-- An escaped apostrophe does not close an escape string, and the colons after it are quoted. -/
theorem Reading.tokens_eq_joined_items_of_escape_string :
    let items : List Item :=
      [.placeholder ['a'], .cast, .quoted .capitalE ['\\', '\'', ':', ':'], .placeholder []]
    Item.Reads items ":a::E'\\'::':".toList ∧
      (Reading.ofTemplate ":a::E'\\'::':").tokens =
        [.placeholder "a", .text "::E'\\'::'", .placeholder ""] := by
  intro items
  have body : Quote.escapeString.Body ['\\', '\'', ':', ':'] :=
    .escaped rfl (.plain (by decide) (by decide) (.plain (by decide) (by decide) .nil))
  have name : (Item.placeholder ['a']).Fits (some ':') :=
    ⟨List.forall_mem_singleton.mpr rfl, fun _ colon => Option.some.inj colon ▸ by decide, nofun⟩
  have nameless : (Item.placeholder []).Fits none := ⟨nofun, nofun, nofun⟩
  have reads : Item.Reads items ":a::E'\\'::':".toList :=
    ⟨by decide, name, trivial, ⟨body, by decide⟩, nameless, trivial⟩
  refine ⟨reads, ?_⟩
  rw [(Reading.tokens_eq_joined_items _).2 items reads]
  decide

end SqlTemplate
