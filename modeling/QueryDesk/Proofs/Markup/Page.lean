import QueryDesk.Proofs.Markup.Decoding

/-!
# The shape of markup

A page is content, then elements with content behind each of them; an element holds content only, so
elements are opened and closed by turns. Content writes the three characters that mean something in
markup as entities. Whatever texts are put into markup, it reads as a page, in one way only, and its
tags are decided by the kinds of the texts.

* `Page.write_injective`: no two pages are written in the same way.
* `Page.Valid.bracket_opens`, `Page.Valid.bracket_closes`, `Page.Valid.ampersand_begins`: where the
  three characters stand on a page.
* `tags_elements`: the tags of markup, found without a look at what they are.
* `markup_wellFormed`: all of this for the spans of a source, and for the whole of it.
-/

set_option autoImplicit false

namespace QueryDesk.Sql.Markup

open Text

/-- The classes that an element can have. -/
def styles : List String :=
  ["sql-comment", "sql-string", "sql-identifier", "sql-keyword", "sql-number", "sql-punctuation"]

/-- How the characters that mean something in markup are written in content. -/
def entities : List Text := ["&lt;".toList, "&gt;".toList, "&amp;".toList]

/-- Text without tags. -/
inductive Content : Text → Prop
  | nil : Content []
  | char {c : Char} {t : Text} : c ≠ '<' → c ≠ '>' → c ≠ '&' → Content t → Content (c :: t)
  | entity {name t : Text} : name ∈ entities → Content t → Content (name ++ t)

/-- An element, and the content behind it up to the next one. -/
structure Element where
  style : String
  content : Text
  behind : Text
  deriving DecidableEq, Repr

structure Page where
  /-- The content before the first element. -/
  front : Text
  elements : List Element
  deriving DecidableEq, Repr

namespace Element

structure Valid (e : Element) : Prop where
  style : e.style ∈ styles
  content : Content e.content
  behind : Content e.behind

def write (e : Element) : Text := opening e.style ++ (e.content ++ (closing ++ e.behind))

end Element

namespace Page

structure Valid (page : Page) : Prop where
  front : Content page.front
  elements : ∀ e ∈ page.elements, e.Valid

def write (page : Page) : Text := page.front ++ page.elements.flatMap Element.write

/-- The page of tokens, each by itself. -/
def of : List Token → Page
  | [] => ⟨[], []⟩
  | t :: ts =>
    match styleClass? t.kind with
    | some style => ⟨[], ⟨style, escape t.text, (of ts).front⟩ :: (of ts).elements⟩
    | none => ⟨escape t.text ++ (of ts).front, (of ts).elements⟩

end Page

theorem Content.append {a b : Text} (content : Content a) (content' : Content b) :
    Content (a ++ b) := by
  induction content with
  | nil => exact content'
  | char less greater ampersand _ ih => exact .char less greater ampersand ih
  | @entity name t member _ ih =>
    rw [List.append_assoc]
    exact .entity member ih

theorem entities_plain : ∀ name ∈ entities, '<' ∉ name ∧ '>' ∉ name := by decide +kernel

theorem Content.plain {t : Text} (content : Content t) : '<' ∉ t ∧ '>' ∉ t := by
  induction content with
  | nil => exact ⟨List.not_mem_nil, List.not_mem_nil⟩
  | char less greater _ _ ih =>
    exact ⟨List.not_mem_cons_of_ne_of_not_mem (Ne.symm less) ih.1,
      List.not_mem_cons_of_ne_of_not_mem (Ne.symm greater) ih.2⟩
  | entity member _ ih =>
    obtain ⟨less, greater⟩ := entities_plain _ member
    exact ⟨List.not_mem_append less ih.1, List.not_mem_append greater ih.2⟩

theorem content_escape (t : Text) : Content (escape t) := by
  induction t with
  | nil => exact .nil
  | cons c cs ih =>
    rw [escape_cons, escapeChar]
    split
    · exact .entity (by decide +kernel) ih
    · rename_i ampersand
      split
      · exact .entity (by decide +kernel) ih
      · rename_i less
        split
        · exact .entity (by decide +kernel) ih
        · rename_i greater
          exact .char less greater ampersand ih

theorem styleClass?_mem {kind : TokenKind} {style : String}
    (styled : styleClass? kind = some style) : style ∈ styles := by
  cases kind <;> cases styled <;> decide

namespace Page

theorem valid_of (ts : List Token) : (of ts).Valid := by
  induction ts with
  | nil => exact ⟨.nil, nofun⟩
  | cons t ts ih =>
    rw [of]
    split
    · rename_i style styled
      refine ⟨.nil, List.forall_mem_cons.2 ⟨?_, ih.elements⟩⟩
      exact ⟨styleClass?_mem styled, content_escape t.text, ih.front⟩
    · exact ⟨(content_escape t.text).append ih.front, ih.elements⟩

theorem write_of (ts : List Token) :
    (of ts).write = ts.flatMap fun t => element t.kind t.text := by
  induction ts with
  | nil => rfl
  | cons t ts ih =>
    rw [List.flatMap_cons, ← ih, of, element]
    cases styleClass? t.kind with
    | some style => simp [write, Element.write]
    | none => simp [write]

theorem styles_of (ts : List Token) :
    (of ts).elements.map Element.style = (ts.map Token.kind).filterMap styleClass? := by
  induction ts with
  | nil => rfl
  | cons t ts ih =>
    rw [of, List.map_cons, List.filterMap_cons, ← ih]
    cases styleClass? t.kind with
    | some style => rfl
    | none => rfl

end Page

theorem styles_plain : ∀ style ∈ styles, '"' ∉ style.toList := by decide +kernel

/-- The class of an element ends at its quote. -/
theorem opening_shape : ∃ front back, ∀ style : String,
    opening style = front ++ (style.toList ++ '"' :: back) :=
  ⟨"<span class=\"".toList, ['>'], fun style => List.append_assoc _ style.toList _⟩

/-- Nothing comes next, or a bracket. -/
def Stops (t : Text) : Prop := t.head?.any (· != '<') = false

theorem stops_closing (rest : Text) : Stops (closing ++ rest) := rfl

theorem stops_elements (elements : List Element) : Stops (elements.flatMap Element.write) := by
  cases elements with
  | nil => rfl
  | cons e es => rfl

theorem Content.unique {t t' rest rest' : Text} (content : Content t) (content' : Content t')
    (stops : Stops rest) (stops' : Stops rest') (same : t ++ rest = t' ++ rest') :
    t = t' ∧ rest = rest' :=
  run_unique same (ne_of_not_mem content.plain.1) stops (ne_of_not_mem content'.plain.1) stops'

namespace Element

variable {e e' : Element} {rest rest' : Text}

theorem write_unique (valid : e.Valid) (valid' : e'.Valid) (stops : Stops rest)
    (stops' : Stops rest') (same : e.write ++ rest = e'.write ++ rest') :
    e = e' ∧ rest = rest' := by
  obtain ⟨front, back, shape⟩ := opening_shape
  simp only [write, shape, List.append_assoc] at same
  have named := List.append_cancel_left same
  obtain ⟨styles, inner⟩ := run_unique named (ne_of_not_mem (styles_plain _ valid.style)) rfl
    (ne_of_not_mem (styles_plain _ valid'.style)) rfl
  have inner := List.append_cancel_left inner
  obtain ⟨contents, outer⟩ := valid.content.unique valid'.content (stops_closing _)
    (stops_closing _) inner
  have outer := List.append_cancel_left outer
  obtain ⟨behinds, rests⟩ := valid.behind.unique valid'.behind stops stops' outer
  exact ⟨congr (congr (congrArg mk (String.toList_injective styles)) contents) behinds, rests⟩

theorem elements_unique {es es' : List Element} (valid : ∀ e ∈ es, e.Valid)
    (valid' : ∀ e ∈ es', e.Valid) (same : es.flatMap write = es'.flatMap write) : es = es' := by
  induction es generalizing es' with
  | nil =>
    cases es' with
    | nil => rfl
    | cons e' es' => cases same
  | cons e es ih =>
    cases es' with
    | nil => cases same
    | cons e' es' =>
      rw [List.flatMap_cons, List.flatMap_cons] at same
      obtain ⟨head, tail⟩ := List.forall_mem_cons.1 valid
      obtain ⟨head', tail'⟩ := List.forall_mem_cons.1 valid'
      obtain ⟨rfl, rests⟩ := write_unique head head' (stops_elements es) (stops_elements es') same
      rw [ih tail tail' rests]

end Element

namespace Page

theorem write_injective {page page' : Page} (valid : page.Valid) (valid' : page'.Valid)
    (same : page.write = page'.write) : page = page' := by
  obtain ⟨fronts, rests⟩ := valid.front.unique valid'.front (stops_elements page.elements)
    (stops_elements page'.elements) same
  exact congr (congrArg mk fronts) (Element.elements_unique valid.elements valid'.elements rests)

end Page

theorem through_length (p : Char → Bool) (t : Text) : (through p t).2.length ≤ t.length := by
  have whole := congrArg List.length (through_append p t)
  rw [List.length_append] at whole
  omega

/-- The tags of a text, each from an opening bracket through the next closing one. -/
def tags : Text → List Text
  | [] => []
  | c :: cs =>
    if c = '<' then (c :: (through (· == '>') cs).1) :: tags (through (· == '>') cs).2
    else tags cs
  termination_by t => t.length
  decreasing_by
    · exact Nat.lt_succ_of_le (through_length _ cs)
    · exact Nat.lt_succ_self _

/-- The tags around a text of the given kind. -/
def tagsOf (kind : TokenKind) : List Text :=
  match styleClass? kind with
  | some style => [opening style, closing]
  | none => []

theorem tags_content {t : Text} (bare : '<' ∉ t) (rest : Text) : tags (t ++ rest) = tags rest := by
  induction t with
  | nil => rfl
  | cons c cs ih =>
    obtain ⟨head, tail⟩ : '<' ≠ c ∧ '<' ∉ cs := by simpa using bare
    rw [List.cons_append, tags, if_neg (Ne.symm head), ih tail]

theorem IsTag.tags {tag : Text} (isTag : IsTag tag) (rest : Text) :
    tags (tag ++ rest) = tag :: tags rest := by
  obtain ⟨inner, open_tag, rfl⟩ := isTag
  have read : through (· == '>') (inner ++ ['>'] ++ rest) = (inner ++ ['>'], rest) := by
    rw [List.append_assoc]
    exact through_char_closed open_tag
  rw [List.cons_append, Markup.tags, if_pos rfl, read]

theorem tags_element (kind : TokenKind) (t rest : Text) :
    tags (element kind t ++ rest) = tagsOf kind ++ tags rest := by
  rw [element, tagsOf]
  cases styled : styleClass? kind with
  | some style =>
    simp only [List.append_assoc]
    rw [(isTag_opening styled).tags, tags_content (escape_ne_open t), isTag_closing.tags]
    rfl
  | none => exact tags_content (escape_ne_open t) rest

theorem tags_elements (ts : List Token) :
    tags (ts.flatMap fun t => element t.kind t.text) = (ts.map Token.kind).flatMap tagsOf := by
  induction ts with
  | nil => rw [List.flatMap_nil, tags]; rfl
  | cons t ts ih => rw [List.flatMap_cons, tags_element, ih, List.map_cons, List.flatMap_cons]

/-- All tags that a page can have. -/
def pageTags : List Text := closing :: styles.map opening

/-- What a page is put together from, down to single characters. -/
inductive Atom : Text → Prop
  | char {c : Char} : c ≠ '<' → c ≠ '>' → c ≠ '&' → Atom [c]
  | entity {name : Text} : name ∈ entities → Atom name
  | tag {tag : Text} : tag ∈ pageTags → Atom tag

def Atomic (t : Text) : Prop := ∃ atoms : List Text, (∀ a ∈ atoms, Atom a) ∧ atoms.flatten = t

theorem Atomic.append {a b : Text} (atomic : Atomic a) (atomic' : Atomic b) : Atomic (a ++ b) := by
  obtain ⟨atoms, each, rfl⟩ := atomic
  obtain ⟨atoms', each', rfl⟩ := atomic'
  exact ⟨atoms ++ atoms', List.forall_mem_append.2 ⟨each, each'⟩, List.flatten_append⟩

theorem Atom.atomic {a : Text} (atom : Atom a) : Atomic a :=
  ⟨[a], List.forall_mem_singleton.2 atom, List.append_nil a⟩

theorem Content.atomic {t : Text} (content : Content t) : Atomic t := by
  induction content with
  | nil => exact ⟨[], nofun, rfl⟩
  | char less greater ampersand _ ih => exact (Atom.char less greater ampersand).atomic.append ih
  | entity member _ ih => exact (Atom.entity member).atomic.append ih

theorem Element.Valid.atomic {e : Element} (valid : e.Valid) : Atomic e.write := by
  have first : opening e.style ∈ pageTags :=
    List.mem_cons_of_mem closing (List.mem_map_of_mem valid.style)
  have last : closing ∈ pageTags := List.mem_cons_self
  exact (Atom.tag first).atomic.append
    (valid.content.atomic.append ((Atom.tag last).atomic.append valid.behind.atomic))

theorem atomic_elements {es : List Element} (valid : ∀ e ∈ es, e.Valid) :
    Atomic (es.flatMap Element.write) := by
  induction es with
  | nil => exact ⟨[], nofun, rfl⟩
  | cons e es ih =>
    obtain ⟨head, tail⟩ := List.forall_mem_cons.1 valid
    exact head.atomic.append (ih tail)

theorem Page.Valid.atomic {page : Page} (valid : page.Valid) : Atomic page.write :=
  valid.front.atomic.append (atomic_elements valid.elements)

/-- A character of a text put together from pieces stands in one of them. -/
theorem piece_at {pieces : List Text} {before after : Text} {c : Char}
    (shape : pieces.flatten = before ++ c :: after) :
    ∃ piece ∈ pieces, ∃ x y, piece = x ++ c :: y ∧ x <:+ before ∧ y <+: after := by
  induction pieces generalizing before with
  | nil => exact absurd shape (by simp)
  | cons piece pieces ih =>
    rw [List.flatten_cons, List.append_eq_append_iff] at shape
    have later {before' : Text} (suffix : before' <:+ before)
        (shape : pieces.flatten = before' ++ c :: after) :
        ∃ found ∈ piece :: pieces, ∃ x y, found = x ++ c :: y ∧ x <:+ before ∧ y <+: after := by
      obtain ⟨found, member, x, y, here, front, back⟩ := ih shape
      exact ⟨found, List.mem_cons_of_mem piece member, x, y, here, front.trans suffix, back⟩
    rcases shape with ⟨cs, rfl, rest⟩ | ⟨cs, rfl, rest⟩
    · exact later (List.suffix_append piece cs) rest
    · cases cs with
      | nil => exact later (List.nil_suffix) rest.symm
      | cons d ds =>
        obtain ⟨rfl, rfl⟩ := List.cons.inj rest
        exact ⟨_, List.mem_cons_self, before, ds, rfl, List.suffix_refl before,
          List.prefix_append ds _⟩

/-- There is one way to cut a text at a character that it has once. -/
theorem only_once {front back x y : Text} {c : Char} (absent : c ∉ front) (absent' : c ∉ back)
    (shape : front ++ c :: back = x ++ c :: y) : x = front ∧ y = back := by
  rcases List.append_eq_append_iff.1 shape with ⟨more, rfl, rest⟩ | ⟨more, rfl, rest⟩
  · cases more with
    | nil => exact ⟨List.append_nil front, (List.cons.inj rest).2.symm⟩
    | cons d ds =>
      have later : back = ds ++ c :: y := (List.cons.inj rest).2
      exact absurd (later ▸ List.mem_append_right ds List.mem_cons_self) absent'
  · cases more with
    | nil => exact ⟨(List.append_nil x).symm, (List.cons.inj rest).2⟩
    | cons d ds =>
      obtain rfl : c = d := (List.cons.inj rest).1
      exact absurd (List.mem_append_right x List.mem_cons_self) absent

theorem pageTags_shape : ∀ tag ∈ pageTags,
    ∃ inner, tag = '<' :: (inner ++ ['>']) ∧ '<' ∉ inner ∧ '>' ∉ inner ∧ '&' ∉ inner := by
  have whole : pageTags.all fun tag =>
      tag == '<' :: ((tag.drop 1).dropLast ++ ['>']) &&
        (tag.drop 1).dropLast.all fun c => c != '<' && c != '>' && c != '&' := by
    decide +kernel
  intro tag member
  have here := List.all_eq_true.1 whole tag member
  simp only [Bool.and_eq_true, beq_iff_eq, List.all_eq_true, bne_iff_ne] at here
  refine ⟨_, here.1, fun inside => ?_, fun inside => ?_, fun inside => ?_⟩
  · exact (here.2 _ inside).1.1 rfl
  · exact (here.2 _ inside).1.2 rfl
  · exact (here.2 _ inside).2 rfl

theorem entities_shape : ∀ name ∈ entities, ∃ rest, name = '&' :: rest ∧ '&' ∉ rest := by
  have whole : entities.all fun name =>
      name == '&' :: name.drop 1 && (name.drop 1).all (· != '&') := by
    decide +kernel
  intro name member
  have here := List.all_eq_true.1 whole name member
  simp only [Bool.and_eq_true, beq_iff_eq, List.all_eq_true, bne_iff_ne] at here
  exact ⟨_, here.1, fun inside => here.2 _ inside rfl⟩

theorem Atom.tag_of_mem {a : Text} (atom : Atom a) {c : Char} (bracket : c = '<' ∨ c = '>')
    (member : c ∈ a) : a ∈ pageTags := by
  cases atom with
  | char less greater _ =>
    obtain rfl := List.mem_singleton.1 member
    exact absurd bracket (not_or_intro less greater)
  | entity named =>
    obtain ⟨less, greater⟩ := entities_plain a named
    rcases bracket with rfl | rfl
    · exact absurd member less
    · exact absurd member greater
  | tag tagged => exact tagged

theorem Atom.entity_of_mem {a : Text} (atom : Atom a) (member : '&' ∈ a) : a ∈ entities := by
  cases atom with
  | char _ _ ampersand => exact absurd (List.mem_singleton.1 member).symm ampersand
  | entity named => exact named
  | tag tagged =>
    obtain ⟨inner, rfl, -, -, ampersand⟩ := pageTags_shape a tagged
    exact absurd member (by simpa using ampersand)

namespace Page

variable {page : Page} {before after : Text}

theorem Valid.atom_at (valid : page.Valid) {c : Char} (shape : page.write = before ++ c :: after) :
    ∃ x y, Atom (x ++ c :: y) ∧ x <:+ before ∧ y <+: after := by
  obtain ⟨atoms, each, whole⟩ := valid.atomic
  obtain ⟨a, member, x, y, rfl, front, back⟩ := piece_at (whole.trans shape)
  exact ⟨x, y, each _ member, front, back⟩

/-- An opening bracket on a page is the first character of a tag. -/
theorem Valid.bracket_opens (valid : page.Valid) (shape : page.write = before ++ '<' :: after) :
    ∃ tag ∈ pageTags, tag <+: '<' :: after := by
  obtain ⟨x, y, atom, -, back⟩ := valid.atom_at shape
  have member := atom.tag_of_mem (.inl rfl) (List.mem_append_right x List.mem_cons_self)
  obtain ⟨inner, form, less, -, -⟩ := pageTags_shape _ member
  have absent : '<' ∉ inner ++ ['>'] := by simpa using less
  obtain ⟨rfl, -⟩ := only_once List.not_mem_nil absent form.symm
  exact ⟨_, member, List.cons_prefix_cons.2 ⟨rfl, back⟩⟩

/-- A closing bracket on a page is the last character of a tag. -/
theorem Valid.bracket_closes (valid : page.Valid) (shape : page.write = before ++ '>' :: after) :
    ∃ tag ∈ pageTags, tag <:+ before ++ ['>'] := by
  obtain ⟨x, y, atom, front, -⟩ := valid.atom_at shape
  have member := atom.tag_of_mem (.inr rfl) (List.mem_append_right x List.mem_cons_self)
  obtain ⟨inner, form, -, greater, -⟩ := pageTags_shape _ member
  have absent : '>' ∉ '<' :: inner := by simpa using greater
  obtain ⟨-, rfl⟩ := only_once absent List.not_mem_nil form.symm
  obtain ⟨more, rfl⟩ := front
  exact ⟨_, member, more, (List.append_assoc ..).symm⟩

/-- An ampersand on a page is the first character of an entity. -/
theorem Valid.ampersand_begins (valid : page.Valid)
    (shape : page.write = before ++ '&' :: after) :
    ∃ name ∈ entities, name <+: '&' :: after := by
  obtain ⟨x, y, atom, -, back⟩ := valid.atom_at shape
  have member := atom.entity_of_mem (List.mem_append_right x List.mem_cons_self)
  obtain ⟨rest, form, ampersand⟩ := entities_shape _ member
  obtain ⟨rfl, -⟩ := only_once List.not_mem_nil ampersand form.symm
  exact ⟨_, member, List.cons_prefix_cons.2 ⟨rfl, back⟩⟩

end Page

/-- Markup that is a page in one way only, with elements for the given kinds. -/
structure WellFormed (out : Text) (kinds : List TokenKind) : Prop where
  page : ∃ page : Page, page.Valid ∧ page.write = out ∧
    page.elements.map Element.style = kinds.filterMap styleClass? ∧
    ∀ other : Page, other.Valid → other.write = out → other = page
  bracket_opens : ∀ before after, out = before ++ '<' :: after →
    ∃ tag ∈ pageTags, tag <+: '<' :: after
  bracket_closes : ∀ before after, out = before ++ '>' :: after →
    ∃ tag ∈ pageTags, tag <:+ before ++ ['>']
  ampersand_begins : ∀ before after, out = before ++ '&' :: after →
    ∃ name ∈ entities, name <+: '&' :: after
  tags : tags out = kinds.flatMap tagsOf

theorem wellFormed_elements (ts : List Token) :
    WellFormed (ts.flatMap fun t => element t.kind t.text) (ts.map Token.kind) := by
  have valid := Page.valid_of ts
  have written := Page.write_of ts
  constructor
  case page =>
    refine ⟨Page.of ts, valid, written, Page.styles_of ts, ?_⟩
    exact fun other valid' same => Page.write_injective valid' valid (same.trans written.symm)
  case bracket_opens => exact fun _ _ shape => valid.bracket_opens (written.trans shape)
  case bracket_closes => exact fun _ _ shape => valid.bracket_closes (written.trans shape)
  case ampersand_begins => exact fun _ _ shape => valid.ampersand_begins (written.trans shape)
  case tags => exact tags_elements ts

/-- Whatever the source and the spans of it, their markup is a page, and the kinds of the spans
decide its tags. -/
theorem markup_wellFormed :
    (∀ (source : Text) (spans : List Span),
      WellFormed (render source spans) (spans.map Span.kind)) ∧
    ∀ source : Text, WellFormed (highlight source) ((Token.scan source).map Token.kind) := by
  refine ⟨fun source spans => ?_, fun source => wellFormed_elements (Token.scan source)⟩
  have whole := wellFormed_elements (spans.map (Span.token source))
  rw [List.flatMap_map, List.map_map] at whole
  exact whole

end QueryDesk.Sql.Markup
