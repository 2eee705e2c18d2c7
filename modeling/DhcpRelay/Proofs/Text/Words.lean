import DhcpRelay.Text.Blank
import Mathlib.Data.List.TakeWhile

/-!
# Words

The words of a text are runs of characters that are not blank.  Blanks at either end of a text do
not count, and a word before a blank is the first one.
-/

namespace DhcpRelay.Text

/-- One character or more, none of them blank. -/
structure IsWord (chars : List Char) : Prop where
  filled : chars ≠ []
  solid : ∀ char ∈ chars, isBlank char = false

instance (chars : List Char) : Decidable (IsWord chars) :=
  decidable_of_iff (chars ≠ [] ∧ chars.all fun char => !isBlank char)
    ⟨fun word => ⟨word.1, by simpa using word.2⟩,
      fun word => ⟨word.filled, by simpa using word.solid⟩⟩

theorem IsWord.reverse {chars : List Char} (isWord : IsWord chars) : IsWord chars.reverse :=
  ⟨mt List.reverse_eq_nil_iff.1 isWord.filled,
    fun char member => isWord.solid char (List.mem_reverse.1 member)⟩

/-! ## Lists of characters -/

section Characters

variable {word front chars blanks : List Char} {blank : Char}

theorem wordsFrom_nil (filled : word ≠ []) : wordsFrom word [] = [word.reverse] := by
  cases word with
  | nil => exact absurd rfl filled
  | cons char word => rfl

theorem wordsFrom_solid {char : Char} (solid : isBlank char = false) (word rest : List Char) :
    wordsFrom word (char :: rest) = wordsFrom (char :: word) rest := by
  have notBlank : ¬ isBlank char = true := by rw [solid]; decide
  cases word with
  | nil => exact if_neg notBlank
  | cons first word => exact if_neg notBlank

theorem wordsFrom_nil_blank (isBlank : isBlank blank = true) (rest : List Char) :
    wordsFrom [] (blank :: rest) = wordsFrom [] rest :=
  if_pos isBlank

theorem wordsFrom_blank (filled : word ≠ []) (isBlank : isBlank blank = true)
    (rest : List Char) :
    wordsFrom word (blank :: rest) = word.reverse :: wordsFrom [] rest := by
  cases word with
  | nil => exact absurd rfl filled
  | cons char word => exact if_pos isBlank

theorem wordsFrom_append (solid : ∀ char ∈ front, isBlank char = false)
    (word rest : List Char) :
    wordsFrom word (front ++ rest) = wordsFrom (front.reverse ++ word) rest := by
  induction front generalizing word with
  | nil => rfl
  | cons char front ih =>
      rw [List.forall_mem_cons] at solid
      rw [List.cons_append, wordsFrom_solid solid.1, ih solid.2, List.reverse_cons,
        List.append_assoc]
      rfl

theorem wordsFrom_dropWhile (chars : List Char) :
    wordsFrom [] (chars.dropWhile isBlank) = wordsFrom [] chars := by
  induction chars with
  | nil => rfl
  | cons char rest ih =>
      rw [List.dropWhile_cons]
      split
      · rename_i blank
        rw [ih, wordsFrom_nil_blank blank]
      · rfl

theorem wordsFrom_blanks (allBlank : ∀ char ∈ blanks, isBlank char = true)
    (word : List Char) : wordsFrom word blanks = wordsFrom word [] := by
  induction blanks generalizing word with
  | nil => rfl
  | cons blank rest ih =>
      rw [List.forall_mem_cons] at allBlank
      cases word with
      | nil => rw [wordsFrom_nil_blank allBlank.1, ih allBlank.2]
      | cons char word =>
          rw [wordsFrom_blank (List.cons_ne_nil char word) allBlank.1, ih allBlank.2]
          rfl

theorem wordsFrom_append_blanks (allBlank : ∀ char ∈ blanks, isBlank char = true)
    (word chars : List Char) : wordsFrom word (chars ++ blanks) = wordsFrom word chars := by
  induction chars generalizing word with
  | nil => exact wordsFrom_blanks allBlank word
  | cons char chars ih =>
      rw [List.cons_append]
      cases kind : isBlank char with
      | false => rw [wordsFrom_solid kind, wordsFrom_solid kind, ih]
      | true =>
          cases word with
          | nil => rw [wordsFrom_nil_blank kind, wordsFrom_nil_blank kind, ih]
          | cons first word =>
              have filled := List.cons_ne_nil first word
              rw [wordsFrom_blank filled kind, wordsFrom_blank filled kind, ih]

theorem wordsFrom_trimBlanks (chars : List Char) :
    wordsFrom [] (trimBlanks chars) = wordsFrom [] chars := by
  have whole := congrArg List.reverse
    (List.takeWhile_append_dropWhile (p := isBlank) (l := (chars.dropWhile isBlank).reverse))
  rw [List.reverse_append, List.reverse_reverse] at whole
  rw [← wordsFrom_dropWhile chars, ← whole, trimBlanks]
  refine (wordsFrom_append_blanks (fun char member => ?_) _ _).symm
  exact List.mem_takeWhile_imp (List.mem_reverse.1 member)

theorem isWord_of_mem_wordsFrom (solid : ∀ char ∈ word, isBlank char = false) :
    ∀ found ∈ wordsFrom word chars, IsWord found := by
  induction chars generalizing word with
  | nil =>
      by_cases filled : word = []
      · rw [filled]
        nofun
      · rw [wordsFrom_nil filled, List.forall_mem_singleton]
        exact IsWord.reverse ⟨filled, solid⟩
  | cons char chars ih =>
      by_cases blank : isBlank char = true
      · by_cases filled : word = []
        · rw [filled, wordsFrom_nil_blank blank]
          exact ih (List.forall_mem_nil _)
        · rw [wordsFrom_blank filled blank, List.forall_mem_cons]
          exact ⟨IsWord.reverse ⟨filled, solid⟩, ih (List.forall_mem_nil _)⟩
      · rw [Bool.not_eq_true] at blank
        rw [wordsFrom_solid blank]
        exact ih (List.forall_mem_cons.2 ⟨blank, solid⟩)

end Characters

/-! ## Texts -/

variable {text word : String}

theorem isWord_of_mem_words (member : word ∈ words text) : IsWord word.toList := by
  rcases List.mem_map.1 member with ⟨found, among, rfl⟩
  rw [String.toList_ofList]
  exact isWord_of_mem_wordsFrom (List.forall_mem_nil _) found among

theorem words_trim (text : String) : words (trim text) = words text := by
  rw [words, trim, String.toList_ofList, wordsFrom_trimBlanks]
  rfl

theorem words_append_blanks {blanks : String}
    (allBlank : blanks.toList.all isBlank = true) (text : String) :
    words (text ++ blanks) = words text := by
  rw [words, String.toList_append, wordsFrom_append_blanks (List.all_eq_true.1 allBlank)]
  rfl

/-- A word before a blank is the first word. -/
theorem words_append_blank (isWord : IsWord word.toList) (rest : String) :
    words (word ++ " " ++ rest) = word :: words rest := by
  have filled : word.toList.reverse ≠ [] := isWord.reverse.filled
  have blank : isBlank ' ' = true := rfl
  rw [words, String.toList_append, String.toList_append, List.append_assoc,
    wordsFrom_append isWord.solid, List.append_nil]
  change List.map _ (wordsFrom _ (' ' :: rest.toList)) = _
  rw [wordsFrom_blank filled blank, List.reverse_reverse, List.map_cons, String.ofList_toList]
  rfl

/-- A front of a word is a word. -/
theorem isWord_of_append {front back : String} (filled : front ≠ "")
    (isWord : IsWord (front ++ back).toList) : IsWord front.toList := by
  rw [String.toList_append] at isWord
  exact ⟨mt String.toList_eq_nil_iff.1 filled,
    fun char member => isWord.solid char (List.mem_append_left _ member)⟩

theorem words_of_isWord (isWord : IsWord word.toList) : words word = [word] := by
  have separate := words_append_blank isWord ""
  rw [String.append_empty, words_append_blanks (by decide)] at separate
  exact separate

end DhcpRelay.Text
