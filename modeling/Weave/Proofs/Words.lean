import Mathlib.Data.List.Basic
import Weave.Text.Blank

/-! The words of a text. Splitting at one blank gives the words on both sides of it, and from that come
all the rest: blanks have no words, blanks around a text add none, and trimming takes none away. -/

namespace Weave.Text

def AllBlank (text : List Char) : Prop := ∀ c ∈ text, isBlank c = true

def Solid (text : List Char) : Prop := ∀ c ∈ text, isBlank c = false

instance (text : List Char) : Decidable (AllBlank text) :=
  decidable_of_iff (text.all isBlank = true) List.all_eq_true

instance (text : List Char) : Decidable (Solid text) :=
  decidable_of_iff (text.any isBlank = false) (by simp only [List.any_eq_false, Bool.not_eq_true, Solid])

structure IsWord (text : List Char) : Prop where
  nonempty : text ≠ []
  solid : Solid text

theorem IsWord.append {word text : List Char} (isWord : IsWord word) (solid : Solid text) :
    IsWord (word ++ text) :=
  ⟨List.append_ne_nil_of_left_ne_nil isWord.nonempty text, List.forall_mem_append.2 ⟨isWord.solid, solid⟩⟩

/-! ### Splitting -/

theorem wordsFrom_blank (read : List Char) {c : Char} (blank : isBlank c = true) (rest : List Char) :
    wordsFrom read (c :: rest) = wordsFrom read [] ++ words rest := by
  cases read with
  | nil => exact if_pos blank
  | cons d read => exact if_pos blank

theorem wordsFrom_solid (read : List Char) {c : Char} (solid : isBlank c = false) (rest : List Char) :
    wordsFrom read (c :: rest) = wordsFrom (c :: read) rest := by
  have unsplit : ¬ isBlank c = true := by rw [solid]; exact Bool.false_ne_true
  cases read with
  | nil => exact if_neg unsplit
  | cons d read => exact if_neg unsplit

theorem wordsFrom_ended {read : List Char} (nonempty : read ≠ []) :
    wordsFrom read [] = [read.reverse] := by
  cases read with
  | nil => contradiction
  | cons c read => rfl

theorem wordsFrom_append_blank (read text rest : List Char) {c : Char} (blank : isBlank c = true) :
    wordsFrom read (text ++ c :: rest) = wordsFrom read text ++ words rest := by
  induction text generalizing read with
  | nil => exact wordsFrom_blank read blank rest
  | cons d text ih =>
    cases split : isBlank d with
    | true =>
      calc
        wordsFrom read (d :: (text ++ c :: rest))
          = wordsFrom read [] ++ words (text ++ c :: rest) := wordsFrom_blank read split _
        _ = wordsFrom read [] ++ (words text ++ words rest) :=
          congrArg (wordsFrom read [] ++ ·) (ih [])
        _ = wordsFrom read (d :: text) ++ words rest := by
          rw [wordsFrom_blank read split, List.append_assoc]
    | false =>
      calc
        wordsFrom read (d :: (text ++ c :: rest))
          = wordsFrom (d :: read) (text ++ c :: rest) := wordsFrom_solid read split _
        _ = wordsFrom read (d :: text) ++ words rest := by rw [ih, wordsFrom_solid read split]

/-- A blank belongs to no word, and no word goes across it. -/
theorem words_append_blank (text rest : List Char) {c : Char} (blank : isBlank c = true) :
    words (text ++ c :: rest) = words text ++ words rest :=
  wordsFrom_append_blank [] text rest blank

theorem words_before {blanks : List Char} (blank : AllBlank blanks) (text : List Char) :
    words (blanks ++ text) = words text := by
  induction blanks with
  | nil => rfl
  | cons c blanks ih =>
    obtain ⟨first, others⟩ := List.forall_mem_cons.1 blank
    calc
      words (c :: (blanks ++ text)) = words [] ++ words (blanks ++ text) :=
        words_append_blank [] _ first
      _ = words text := ih others

theorem words_between (text : List Char) {blanks : List Char} (nonempty : blanks ≠ [])
    (blank : AllBlank blanks) (rest : List Char) :
    words (text ++ (blanks ++ rest)) = words text ++ words rest := by
  obtain ⟨c, blanks, rfl⟩ := List.exists_cons_of_ne_nil nonempty
  obtain ⟨first, others⟩ := List.forall_mem_cons.1 blank
  rw [List.cons_append, words_append_blank text _ first, words_before others]

theorem words_isWord {word : List Char} (isWord : IsWord word) : words word = [word] := by
  have reading (read text : List Char) (solid : Solid text) :
      wordsFrom read text = wordsFrom (text.reverse ++ read) [] := by
    induction text generalizing read with
    | nil => rfl
    | cons c text ih =>
      obtain ⟨first, others⟩ := List.forall_mem_cons.1 solid
      rw [wordsFrom_solid read first, ih _ others, List.reverse_cons, List.append_assoc,
        List.singleton_append]
  have reversed : word.reverse ≠ [] := mt List.reverse_eq_nil_iff.1 isWord.nonempty
  rw [words, reading [] word isWord.solid, List.append_nil, wordsFrom_ended reversed,
    List.reverse_reverse]

theorem mem_wordsFrom {read text word : List Char} (solid : Solid read)
    (member : word ∈ wordsFrom read text) : IsWord word := by
  have ended (read : List Char) (solid : Solid read) (member : word ∈ wordsFrom read []) :
      IsWord word := by
    cases read with
    | nil => exact absurd member List.not_mem_nil
    | cons c read =>
      rw [List.mem_singleton.1 member]
      exact ⟨mt List.reverse_eq_nil_iff.1 (List.cons_ne_nil c read),
        fun d inside => solid d (List.mem_reverse.1 inside)⟩
  induction text generalizing read with
  | nil => exact ended read solid member
  | cons c text ih =>
    cases split : isBlank c with
    | true =>
      rw [wordsFrom_blank read split] at member
      rcases List.mem_append.1 member with first | later
      · exact ended read solid first
      · exact ih (List.forall_mem_nil _) later
    | false =>
      rw [wordsFrom_solid read split] at member
      exact ih (List.forall_mem_cons.2 ⟨split, solid⟩) member

theorem mem_words {text word : List Char} (member : word ∈ words text) : IsWord word :=
  mem_wordsFrom (List.forall_mem_nil _) member

/-! ### Trimming -/

/-- A text that neither begins nor ends with a blank. -/
structure Framed (text : List Char) : Prop where
  first : ∃ c ∈ text.head?, isBlank c = false
  last : ∃ c ∈ text.getLast?, isBlank c = false

theorem IsWord.framed {word : List Char} (isWord : IsWord word) : Framed word where
  first := ⟨_, List.head?_eq_some_head isWord.nonempty, isWord.solid _ (List.head_mem _)⟩
  last := ⟨_, List.getLast?_eq_some_getLast isWord.nonempty, isWord.solid _ (List.getLast_mem _)⟩

theorem head?_front {front : List Char} {c : Char} (first : c ∈ front.head?) (back : List Char) :
    c ∈ (front ++ back).head? := by
  rw [List.head?_append, Option.mem_def.1 first]
  rfl

theorem getLast?_back {back : List Char} {c : Char} (last : c ∈ back.getLast?) (front : List Char) :
    c ∈ (front ++ back).getLast? := by
  rw [List.getLast?_append, Option.mem_def.1 last]
  rfl

theorem Framed.around {front back : List Char} (opens : Framed front) (closes : Framed back)
    (middle : List Char) : Framed (front ++ (middle ++ back)) := by
  obtain ⟨c, first, solid⟩ := opens.first
  obtain ⟨d, last, firm⟩ := closes.last
  exact ⟨⟨c, head?_front first _, solid⟩, ⟨d, getLast?_back (getLast?_back last middle) front, firm⟩⟩

theorem trimLeft_framed {before text : List Char} (blank : AllBlank before)
    (first : ∃ c ∈ text.head?, isBlank c = false) : trimLeft (before ++ text) = text := by
  obtain ⟨c, head, solid⟩ := first
  obtain ⟨rest, rfl⟩ := List.head?_eq_some_iff.1 head
  rw [trimLeft, List.dropWhile_append_of_pos blank,
    List.dropWhile_cons_of_neg (Bool.not_eq_true _ ▸ solid)]

/-- The blanks around a text are what is taken off. -/
theorem trim_framed {before text behind : List Char} (blankBefore : AllBlank before)
    (blankBehind : AllBlank behind) (framed : Framed text) :
    trim (before ++ (text ++ behind)) = text := by
  obtain ⟨c, first, solid⟩ := framed.first
  obtain ⟨d, last, firm⟩ := framed.last
  have left : trimLeft (before ++ (text ++ behind)) = text ++ behind :=
    trimLeft_framed blankBefore ⟨c, head?_front first behind, solid⟩
  have right : trimLeft (behind.reverse ++ text.reverse) = text.reverse := by
    apply trimLeft_framed (fun e inside => blankBehind e (List.mem_reverse.1 inside))
    exact ⟨d, List.head?_reverse ▸ last, firm⟩
  rw [trim, left, trimRight, List.reverse_append, right, List.reverse_reverse]

end Weave.Text
