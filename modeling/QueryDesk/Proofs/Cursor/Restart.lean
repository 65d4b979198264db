import QueryDesk.Proofs.Cursor.Safety
import QueryDesk.Proofs.Tokens.Adjacent

/-!
# Reading again from a seam

A phrase is not looked for right after a word character, so the cursor looks back by one octet. It
never finds a word there: a token that ends in a word takes all of the word. So the look back can be
left out (`splitBare_eq`), and the text from a seam on, where two spans meet, can be read by itself:
it gives the same spans, only further to the left. `restarts_at_seams` says so of the spans of
tokens and of the merged ones.
-/

set_option autoImplicit false

namespace QueryDesk.Sql

open Text

namespace Token

/-- The tokens of a text, each of them read as if no word led into it. -/
def splitBare (phrases : List Phrase) (t : Text) : List Token :=
  match _found : cut? phrases false t with
  | none => []
  | some (token, rest) => token :: splitBare phrases rest
  termination_by t.length
  decreasing_by exact cut_length _found

variable {phrases : List Phrase} {afterWord : Bool} {t : Text}

theorem cut?_bare (apart : afterWord = true → startsWithWord t = false) :
    cut? phrases afterWord t = cut? phrases false t := by
  cases afterWord with
  | false => rfl
  | true =>
    cases t with
    | nil => rfl
    | cons c cs =>
      have mark : isWordChar c = false := apart rfl
      simp only [cut?, phrase?, not_isAlpha_of_not_isWordChar mark, Bool.false_and]

theorem splitAfter_bare (table : Phrase.Table phrases)
    (apart : afterWord = true → startsWithWord t = false) :
    splitAfter phrases afterWord t = splitBare phrases t := by
  fun_induction splitBare phrases t generalizing afterWord with
  | case1 t none =>
    cases t with
    | nil => exact splitAfter_nil phrases afterWord
    | cons c cs => simp [cut?, single?] at none
  | case2 t token rest found ih =>
    have here : cut? phrases (endsWithWord []) t = some (token, rest) := found
    obtain ⟨-, obeys⟩ := (cut?_eq_some_iff table).1 here
    rw [splitAfter_cut ((cut?_bare apart).trans found)]
    exact congrArg (token :: ·) (ih (obeys.apart table))

theorem splitBare_eq (source : Text) : splitBare Phrase.all source = split source :=
  (splitAfter_bare Phrase.table_all fun led => absurd led Bool.false_ne_true).symm

end Token

namespace Span

/-- An offset where two spans meet, or one of the ends. -/
def Seam (spans : List Span) (stop n : Nat) : Prop :=
  n = 0 ∨ n = stop ∨ ∃ front s s' back, spans = front ++ s :: s' :: back ∧ s.stop = n

/-- The spans that a reader finds in the text from an offset on are, further on, those that it finds
there in the whole text. -/
def RestartsAt (reader : Text → List Span) (source : Text) (n : Nat) : Prop :=
  ∃ rest, textFrom source n = .ok rest ∧
    (reader rest).map (shift n) = (reader source).filter (n ≤ ·.start)

/-- A seam lies between the tokens before it and those after it. -/
theorem Seam.divides {tokens : List Token} {n : Nat}
    (seam : Seam (layOut 0 tokens) (byteSize (Token.concat tokens)) n) :
    ∃ front back, tokens = front ++ back ∧ byteSize (Token.concat front) = n := by
  rcases seam with rfl | rfl | ⟨earlier, s, s', later, shape, rfl⟩
  · exact ⟨[], tokens, rfl, rfl⟩
  · exact ⟨tokens, [], (List.append_nil _).symm, rfl⟩
  · obtain ⟨front, t, back, rfl, rfl⟩ := layOut_eq_append_cons shape
    have text : Token.concat [t] = t.text := List.append_nil _
    exact ⟨front ++ [t], back, by simp, by
      rw [Token.concat_append, byteSize_append, text, Nat.zero_add]⟩

/-- Reading can begin again at a seam of tokens if those behind it are read from their own text. -/
theorem restartsAt_of_rest {read : Text → List Token} {source : Text}
    (whole : Token.concat (read source) = source) (full : ∀ t ∈ read source, t.text ≠ [])
    (rest : ∀ front back, read source = front ++ back → read (Token.concat back) = back) {n : Nat}
    (seam : Seam (layOut 0 (read source)) (byteSize source) n) :
    RestartsAt (fun t => layOut 0 (read t)) source n := by
  have seam' : Seam (layOut 0 (read source)) (byteSize (Token.concat (read source))) n := by
    rwa [whole]
  obtain ⟨front, back, divided, rfl⟩ := seam'.divides
  have shape : Token.concat front ++ Token.concat back = source := by
    rw [← Token.concat_append, ← divided, whole]
  refine ⟨Token.concat back, ?_, ?_⟩
  · have ahead := textFrom_append (Token.concat front) (Token.concat back)
    rwa [shape] at ahead
  · change (layOut 0 (read (Token.concat back))).map _ = (layOut 0 (read source)).filter _
    rw [rest front back divided, map_shift_layOut, Nat.zero_add, divided,
      filter_layOut (divided ▸ full)]

theorem restartsAt_raw {source : Text} {n : Nat} (seam : Seam (raw source) (byteSize source) n) :
    RestartsAt raw source n :=
  restartsAt_of_rest (Token.concat_split source) (Cursor.split_full source)
    (fun _ _ => Token.split_rest) seam

theorem restartsAt_scan {source : Text} {n : Nat} (seam : Seam (scan source) (byteSize source) n) :
    RestartsAt scan source n := by
  refine restartsAt_of_rest (Token.concat_scan source)
    (Token.merge_full (Cursor.split_full source)) (fun front back divided => ?_) seam
  obtain ⟨ts, us, divided', -, rfl⟩ := Token.merge_eq_append divided
  rw [Token.concat_merge, Token.scan, Token.split_rest divided']

end Span

namespace Cursor

/-- Where a word comes next, none comes before. -/
theorem precededByWord_between {source : Text} {front back : List Token}
    (divided : Token.split source = front ++ back)
    (follows : wordAt (encode source) (byteSize (Token.concat front)) = true) :
    precededByWord (encode source) (byteSize (Token.concat front)) = .ok false := by
  obtain ⟨shape, stands⟩ := Token.split_eq_iff_stands.1 divided
  rw [Token.concat_append] at shape
  rw [← shape, wordAt_eq] at follows
  rw [← shape, precededByWord_eq]
  cases ends : endsWithWord (Token.concat front) with
  | false => rfl
  | true =>
    rw [stands.apart Phrase.table_all ends] at follows
    cases follows

theorem precededByWord_of_wordAt {input : Bytes} {n : Nat} (word : wordAt input n = true) :
    precededByWord input (n + 1) = .ok true := by
  rw [wordAt, Option.any_eq_true] at word
  obtain ⟨b, here, letter⟩ := word
  rw [precededByWord, if_neg (Nat.succ_ne_zero n), Nat.add_sub_cancel, here]
  exact congrArg Except.ok letter

/-- From every seam of the spans of a source on, merged or not, reading again gives the spans that
are there. No seam has a word octet on both sides, so at a span that starts with one the look back
finds none, and without the look back the spans are the same. -/
theorem restarts_at_seams (source : Text) :
    (∀ n, Span.Seam (Span.raw source) (byteSize source) n → Span.RestartsAt Span.raw source n) ∧
    (∀ n, Span.Seam (Span.scan source) (byteSize source) n → Span.RestartsAt Span.scan source n) ∧
    (∀ n, Span.Seam (Span.raw source) (byteSize source) (n + 1) →
      ¬ (wordAt (encode source) n = true ∧ wordAt (encode source) (n + 1) = true)) ∧
    (∀ s ∈ Span.raw source, wordAt (encode source) s.start = true →
      precededByWord (encode source) s.start = .ok false) ∧
    Span.layOut 0 (Token.splitBare Phrase.all source) = Span.raw source := by
  refine ⟨fun n => Span.restartsAt_raw, fun n => Span.restartsAt_scan, ?_, ?_, ?_⟩
  · rintro n seam ⟨before, follows⟩
    have seam' : Span.Seam (Span.layOut 0 (Token.split source))
        (byteSize (Token.concat (Token.split source))) (n + 1) := by
      rwa [Token.concat_split]
    obtain ⟨front, back, divided, size⟩ := seam'.divides
    have none := precededByWord_between divided (size ▸ follows)
    rw [size, precededByWord_of_wordAt before] at none
    cases none
  · intro s member
    obtain ⟨earlier, later, shape⟩ := List.append_of_mem member
    obtain ⟨front, t, back, divided, rfl⟩ := Span.layOut_eq_append_cons shape
    rw [Nat.zero_add]
    exact precededByWord_between divided
  · rw [Token.splitBare_eq]
    rfl

end Cursor

end QueryDesk.Sql
