import QueryDesk.Sql.Markup
import QueryDesk.Proofs.Tokens.Tiling

/-!
# Markup read back

Three ways to read the source out of its markup: tags dropped and entities decoded one after the
other (`dropTags`, then `decode`), both in one pass over the markup (`stripMarkup`), and tags
dropped, then each entity replaced throughout (`replaceEntities`).

They rest on two facts about content: `escape` writes no angle bracket, so every bracket belongs to
a tag, and it writes an ampersand only at the start of an entity. The replacements are right in
their order only. Each of them undoes one escape (`replaceAll_escapeOnly`) as long as ampersands are
still escaped, so theirs comes last.
-/

set_option autoImplicit false

namespace QueryDesk.Sql.Markup

open Text

/-- What follows the tag that the text begins inside of. -/
def afterTag? : Text → Option Text
  | [] => none
  | c :: cs => if c = '>' then some cs else afterTag? cs

theorem afterTag?_length {t rest : Text} (found : afterTag? t = some rest) :
    rest.length < t.length := by
  induction t with
  | nil => cases found
  | cons c cs ih =>
    rw [afterTag?] at found
    split at found
    · cases found
      exact Nat.lt_succ_self _
    · exact Nat.lt_succ_of_lt (ih found)

/-- The text without its tags, each from an opening bracket through the next closing one. -/
def dropTags : Text → Option Text
  | [] => some []
  | c :: cs =>
    if c = '<' then
      match _found : afterTag? cs with
      | none => none
      | some rest => dropTags rest
    else (dropTags cs).map (c :: ·)
  termination_by t => t.length
  decreasing_by
    · exact Nat.lt_succ_of_lt (afterTag?_length _found)
    · exact Nat.lt_succ_self _

/-- The first character of content, an entity counting as what it stands for, and the rest. -/
def readChar : Char → Text → Char × Text
  | '&', 'l' :: 't' :: ';' :: cs => ('<', cs)
  | '&', 'g' :: 't' :: ';' :: cs => ('>', cs)
  | '&', 'a' :: 'm' :: 'p' :: ';' :: cs => ('&', cs)
  | c, cs => (c, cs)

theorem readChar_length (c : Char) (cs : Text) : (readChar c cs).2.length ≤ cs.length := by
  unfold readChar
  split <;> simp <;> omega

/-- Content with its entities decoded from left to right. -/
def decode : Text → Text
  | [] => []
  | c :: cs => (readChar c cs).1 :: decode (readChar c cs).2
  termination_by t => t.length
  decreasing_by exact Nat.lt_succ_of_le (readChar_length c cs)

/-- Tags dropped and entities decoded in one pass from left to right. -/
def stripMarkup : Text → Option Text
  | [] => some []
  | c :: cs =>
    if c = '<' then
      match _found : afterTag? cs with
      | none => none
      | some rest => stripMarkup rest
    else (stripMarkup (readChar c cs).2).map ((readChar c cs).1 :: ·)
  termination_by t => t.length
  decreasing_by
    · exact Nat.lt_succ_of_lt (afterTag?_length _found)
    · exact Nat.lt_succ_of_le (readChar_length c cs)

/-- Every occurrence of `needle`, from left to right, replaced by `other`. -/
def replaceAll (needle other : Text) : Text → Text
  | [] => []
  | c :: cs =>
    if needle <+: c :: cs then other ++ replaceAll needle other (cs.drop (needle.length - 1))
    else c :: replaceAll needle other cs
  termination_by t => t.length
  decreasing_by
    · rw [List.length_drop]
      exact Nat.lt_succ_of_le (Nat.sub_le ..)
    · exact Nat.lt_succ_self _

/-- The entities replaced one kind after the other. -/
def replaceEntities (t : Text) : Text :=
  replaceAll "&amp;".toList ['&']
    (replaceAll "&gt;".toList ['>'] (replaceAll "&lt;".toList ['<'] t))

theorem afterTag?_append {inner : Text} (open_tag : '>' ∉ inner) (rest : Text) :
    afterTag? (inner ++ '>' :: rest) = some rest := by
  induction inner with
  | nil => rfl
  | cons c cs ih =>
    obtain ⟨head, tail⟩ : '>' ≠ c ∧ '>' ∉ cs := by simpa using open_tag
    rw [List.cons_append, afterTag?, if_neg (Ne.symm head), ih tail]

/-- A tag: an opening bracket, text without a closing one, and a closing one. -/
def IsTag (tag : Text) : Prop := ∃ inner, '>' ∉ inner ∧ tag = '<' :: (inner ++ ['>'])

theorem IsTag.dropTags {tag : Text} (shape : IsTag tag) (rest : Text) :
    dropTags (tag ++ rest) = dropTags rest := by
  obtain ⟨inner, open_tag, rfl⟩ := shape
  have found : afterTag? (inner ++ ['>'] ++ rest) = some rest := by
    simpa using afterTag?_append open_tag rest
  rw [List.cons_append, Markup.dropTags, if_pos rfl]
  split
  · rename_i none
    rw [found] at none
    cases none
  · rename_i same
    rw [found] at same
    cases same
    rfl

theorem IsTag.stripMarkup {tag : Text} (shape : IsTag tag) (rest : Text) :
    stripMarkup (tag ++ rest) = stripMarkup rest := by
  obtain ⟨inner, open_tag, rfl⟩ := shape
  have found : afterTag? (inner ++ ['>'] ++ rest) = some rest := by
    simpa using afterTag?_append open_tag rest
  rw [List.cons_append, Markup.stripMarkup, if_pos rfl]
  split
  · rename_i none
    rw [found] at none
    cases none
  · rename_i same
    rw [found] at same
    cases same
    rfl

theorem isTag_opening {kind : TokenKind} {style : String} (styled : styleClass? kind = some style) :
    IsTag (opening style) := by
  refine ⟨"span class=\"".toList ++ style.toList ++ ['"'], ?_, ?_⟩
  · cases kind <;> cases styled <;> decide +kernel
  · cases kind <;> cases styled <;> decide +kernel

theorem isTag_closing : IsTag closing := ⟨"/span".toList, by decide +kernel, by decide +kernel⟩

theorem escape_cons (c : Char) (cs : Text) : escape (c :: cs) = escapeChar c ++ escape cs :=
  List.flatMap_cons

theorem escape_append (a b : Text) : escape (a ++ b) = escape a ++ escape b :=
  List.flatMap_append

theorem escapeChar_ne_open (c : Char) : '<' ∉ escapeChar c := by
  unfold escapeChar
  split
  · decide +kernel
  · split
    · decide +kernel
    · split
      · decide +kernel
      · rename_i other _
        simpa using Ne.symm other

theorem escape_ne_open (t : Text) : '<' ∉ escape t := by
  intro member
  obtain ⟨c, -, inside⟩ := List.mem_flatMap.1 member
  exact escapeChar_ne_open c inside

/-- An escaped character is read back as that character, and begins no tag. -/
theorem readChar_escapeChar (c : Char) (rest : Text) :
    ∃ d ds, escapeChar c ++ rest = d :: ds ∧ d ≠ '<' ∧ readChar d ds = (c, rest) := by
  unfold escapeChar
  split
  · rename_i same
    subst same
    exact ⟨'&', _, rfl, by decide, rfl⟩
  · split
    · rename_i same
      subst same
      exact ⟨'&', _, rfl, by decide, rfl⟩
    · split
      · rename_i same
        subst same
        exact ⟨'&', _, rfl, by decide, rfl⟩
      · rename_i bare other _
        refine ⟨c, rest, rfl, other, ?_⟩
        unfold readChar
        split <;> simp_all

theorem dropTags_append {t : Text} (bare : '<' ∉ t) (rest : Text) :
    dropTags (t ++ rest) = (dropTags rest).map (t ++ ·) := by
  induction t with
  | nil => simp
  | cons c cs ih =>
    obtain ⟨head, tail⟩ : '<' ≠ c ∧ '<' ∉ cs := by simpa using bare
    rw [List.cons_append, dropTags, if_neg (Ne.symm head), ih tail, Option.map_map]
    rfl

theorem decode_escape (t : Text) : decode (escape t) = t := by
  induction t with
  | nil => rw [escape, List.flatMap_nil, decode]
  | cons c cs ih =>
    obtain ⟨d, ds, shape, -, read⟩ := readChar_escapeChar c (escape cs)
    rw [escape_cons, shape, decode, read, ih]

theorem stripMarkup_escape (t rest : Text) :
    stripMarkup (escape t ++ rest) = (stripMarkup rest).map (t ++ ·) := by
  induction t with
  | nil => simp [escape]
  | cons c cs ih =>
    obtain ⟨d, ds, shape, other, read⟩ := readChar_escapeChar c (escape cs ++ rest)
    rw [escape_cons, List.append_assoc, shape, stripMarkup, if_neg other, read, ih,
      Option.map_map]
    rfl

/-- A text with only some of the special characters escaped. -/
def escapeOnly (special : List Char) (t : Text) : Text :=
  t.flatMap fun c => if c ∈ special then escapeChar c else [c]

theorem escapeOnly_cons (special : List Char) (c : Char) (cs : Text) :
    escapeOnly special (c :: cs) =
      (if c ∈ special then escapeChar c else [c]) ++ escapeOnly special cs :=
  List.flatMap_cons

theorem escapeOnly_all (t : Text) : escapeOnly ['<', '>', '&'] t = escape t := by
  unfold escapeOnly escape
  congr 1
  funext c
  split
  · rfl
  · rename_i plain
    simp_all [escapeChar]

theorem escapeOnly_nil (t : Text) : escapeOnly [] t = t := by
  simp [escapeOnly]

theorem replaceAll_here (needle other : Text) (full : needle ≠ []) (rest : Text) :
    replaceAll needle other (needle ++ rest) = other ++ replaceAll needle other rest := by
  obtain ⟨c, cs, rfl⟩ := List.exists_cons_of_ne_nil full
  rw [List.cons_append, replaceAll, if_pos (by simp)]
  simp

theorem replaceAll_skip {needle other : Text} {c : Char} {cs : Text}
    (absent : ¬ needle <+: c :: cs) :
    replaceAll needle other (c :: cs) = c :: replaceAll needle other cs := by
  rw [replaceAll, if_neg absent]

/-- Text in which no occurrence can begin is left as it is. -/
theorem replaceAll_pass {first : Char} {needle other front : Text} (absent : first ∉ front)
    (rest : Text) : replaceAll (first :: needle) other (front ++ rest) =
      front ++ replaceAll (first :: needle) other rest := by
  induction front with
  | nil => rfl
  | cons c cs ih =>
    obtain ⟨head, tail⟩ : first ≠ c ∧ first ∉ cs := by simpa using absent
    rw [List.cons_append, replaceAll_skip, ih tail]
    · rfl
    · intro begins
      exact head (List.cons_prefix_cons.1 begins).1

/-- The characters that are escaped. -/
def special : List Char := ['<', '>', '&']

theorem escapeChar_shape {d : Char} (member : d ∈ special) :
    ∃ name, escapeChar d = '&' :: name ∧ '&' ∉ name := by
  revert d
  change ∀ d ∈ ['<', '>', '&'], _
  simp only [List.forall_mem_cons]
  exact ⟨⟨_, rfl, by decide⟩, ⟨_, rfl, by decide⟩, ⟨_, rfl, by decide⟩, by simp⟩

/-- No entity begins where another one stands. -/
theorem escapeChar_apart {c d : Char} (member : c ∈ special) (member' : d ∈ special)
    (different : d ≠ c) (rest : Text) : ¬ escapeChar d <+: escapeChar c ++ rest := by
  have amp : escapeChar '&' = ['&', 'a', 'm', 'p', ';'] := by decide +kernel
  have less : escapeChar '<' = ['&', 'l', 't', ';'] := by decide +kernel
  have greater : escapeChar '>' = ['&', 'g', 't', ';'] := by decide +kernel
  simp only [special, List.mem_cons, List.not_mem_nil, or_false] at member member'
  rcases member with rfl | rfl | rfl <;> rcases member' with rfl | rfl | rfl <;>
    first
    | exact absurd rfl different
    | simp [amp, less, greater]

/-- Replacing one entity undoes that escape and no other, as long as ampersands are escaped. -/
theorem replaceAll_escapeOnly {d : Char} {others : List Char}
    (known : ∀ c ∈ d :: others, c ∈ special) (fresh : d ∉ others)
    (ampersand : '&' ∈ d :: others) (t : Text) :
    replaceAll (escapeChar d) [d] (escapeOnly (d :: others) t) = escapeOnly others t := by
  have member_d := known d (List.mem_cons_self ..)
  obtain ⟨name, entity, -⟩ := escapeChar_shape member_d
  induction t with
  | nil => rw [escapeOnly, List.flatMap_nil, replaceAll]; rfl
  | cons c cs ih =>
    rw [escapeOnly_cons, escapeOnly_cons]
    by_cases same : c = d
    · subst same
      rw [if_pos (List.mem_cons_self ..), replaceAll_here _ _ (by simp [entity]), ih, if_neg fresh]
    · by_cases member : c ∈ others
      · -- Another entity: no occurrence begins at its ampersand, nor after it.
        have member_c := known c (List.mem_cons_of_mem d member)
        obtain ⟨name', entity', closed⟩ := escapeChar_shape member_c
        have apart := escapeChar_apart member_c member_d (Ne.symm same)
          (escapeOnly (d :: others) cs)
        rw [if_pos (List.mem_cons_of_mem d member), if_pos member, entity', List.cons_append,
          List.cons_append]
        rw [entity', List.cons_append] at apart
        rw [replaceAll_skip apart, entity, replaceAll_pass closed, ← entity, ih]
      · have bare : '&' ≠ c := by
          rintro rfl
          rcases List.mem_cons.1 ampersand with same' | member'
          · exact same same'
          · exact member member'
        have plain : c ∉ d :: others := by simp [same, member]
        rw [if_neg plain, if_neg member, entity, replaceAll_pass (by simpa using bare), ← entity,
          ih]

theorem replaceEntities_escape (t : Text) : replaceEntities (escape t) = t := by
  have less : "&lt;".toList = escapeChar '<' := by decide +kernel
  have greater : "&gt;".toList = escapeChar '>' := by decide +kernel
  have amp : "&amp;".toList = escapeChar '&' := by decide +kernel
  rw [replaceEntities, less, greater, amp, ← escapeOnly_all,
    replaceAll_escapeOnly (by simp [special]) (by simp) (by simp),
    replaceAll_escapeOnly (by simp [special]) (by simp) (by simp),
    replaceAll_escapeOnly (by simp [special]) (by simp) (by simp), escapeOnly_nil]

theorem dropTags_element (kind : TokenKind) (t rest : Text) :
    dropTags (element kind t ++ rest) = (dropTags rest).map (escape t ++ ·) := by
  unfold element
  split
  · rename_i style styled
    rw [List.append_assoc, List.append_assoc, (isTag_opening styled).dropTags,
      dropTags_append (escape_ne_open t), isTag_closing.dropTags]
  · exact dropTags_append (escape_ne_open t) rest

theorem stripMarkup_element (kind : TokenKind) (t rest : Text) :
    stripMarkup (element kind t ++ rest) = (stripMarkup rest).map (t ++ ·) := by
  unfold element
  split
  · rename_i style styled
    rw [List.append_assoc, List.append_assoc, (isTag_opening styled).stripMarkup,
      stripMarkup_escape, isTag_closing.stripMarkup]
  · exact stripMarkup_escape t rest

/-- The texts of spans of a source one after another. -/
def texts (source : Text) (spans : List Span) : Text := spans.flatMap (Span.text source)

theorem dropTags_render (source : Text) (spans : List Span) :
    dropTags (render source spans) = some (escape (texts source spans)) := by
  induction spans with
  | nil => rw [render, List.flatMap_nil, dropTags]; rfl
  | cons s ss ih =>
    have more : texts source (s :: ss) = s.text source ++ texts source ss := List.flatMap_cons
    rw [render, List.flatMap_cons, ← render, dropTags_element, ih, more, escape_append]
    rfl

theorem stripMarkup_render (source : Text) (spans : List Span) :
    stripMarkup (render source spans) = some (texts source spans) := by
  induction spans with
  | nil => rw [render, List.flatMap_nil, stripMarkup]; rfl
  | cons s ss ih =>
    rw [render, List.flatMap_cons, ← render, stripMarkup_element, ih]
    rfl

theorem highlight_eq_render (source : Text) :
    highlight source = render source (Span.scan source) := by
  rw [highlight, ← Span.map_token_scan, List.flatMap_map]
  rfl

theorem texts_scan (source : Text) : texts source (Span.scan source) = source := by
  have whole := Token.concat_scan source
  rw [← Span.map_token_scan, Token.concat, List.flatMap_map] at whole
  exact whole

/-- Every reader of markup gives back the texts of the spans that were rendered, hence the source
from the markup of the whole of it, so no two sources have the same markup. -/
theorem markup_lossless :
    (∀ (source : Text) (spans : List Span),
      (dropTags (render source spans)).map decode = some (texts source spans) ∧
      stripMarkup (render source spans) = some (texts source spans) ∧
      (dropTags (render source spans)).map replaceEntities = some (texts source spans)) ∧
    (∀ source : Text,
      (dropTags (highlight source)).map decode = some source ∧
      stripMarkup (highlight source) = some source ∧
      (dropTags (highlight source)).map replaceEntities = some source) ∧
    Function.Injective highlight := by
  have rendered (source : Text) (spans : List Span) :
      (dropTags (render source spans)).map decode = some (texts source spans) ∧
      stripMarkup (render source spans) = some (texts source spans) ∧
      (dropTags (render source spans)).map replaceEntities = some (texts source spans) := by
    refine ⟨?_, stripMarkup_render source spans, ?_⟩
    · rw [dropTags_render, Option.map_some, decode_escape]
    · rw [dropTags_render, Option.map_some, replaceEntities_escape]
  have whole (source : Text) := rendered source (Span.scan source)
  simp only [← highlight_eq_render, texts_scan] at whole
  refine ⟨rendered, whole, ?_⟩
  intro source source' same
  have back := (whole source).2.1
  rw [same, (whole source').2.1] at back
  exact (Option.some.inj back).symm

end QueryDesk.Sql.Markup
