/-
# Readers of text

A reader takes something from the front of a text and leaves the rest, or refuses. Readers chain,
each going on where the one before it stopped. A reader *advances* when what it leaves is always an
end of what it was given, and *consumes* when it moreover always takes at least one character;
chains inherit both, and a loop that repeats a consuming reader ends because the text gets shorter.
-/

import VisualNovel.Text.Folding

namespace VisualNovel.Text

/-- A reader of a value of type `α` from the front of a text. -/
abbrev Reader (α : Type) := StateT (List Char) Option α

namespace Reader

variable {α β : Type}

/-- Reads the keyword in any letter case. -/
def keyword (word : String) : Reader Unit := fun text =>
  (stripFolded? word.toList text).map ((), ·)

/-- Reads exactly the character `c`. -/
def literal (c : Char) : Reader Unit
  | d :: rest => if d = c then some ((), rest) else none
  | [] => none

/-- Reads the longest run of characters with the property, which may be empty. -/
def many (property : Char → Bool) : Reader (List Char) := fun text =>
  some (text.takeWhile property, text.dropWhile property)

/-- Reads the longest run of characters with the property and refuses an empty one. -/
def many1 (property : Char → Bool) : Reader (List Char) := fun text =>
  match text.takeWhile property with
  | [] => none
  | run => some (run, text.dropWhile property)

/-- Reads `c` if the text starts with it, and says whether it did. -/
def literal? (c : Char) : Reader Bool
  | d :: rest => if d = c then some (true, rest) else some (false, d :: rest)
  | [] => some (false, [])

/-- Reads the first of the keywords that the text starts with, as it is spelled there. -/
def oneOf (words : List String) : Reader (List Char) := fun text =>
  words.findSome? fun word =>
    (stripFolded? word.toList text).map fun rest => (text.take word.toList.length, rest)

/-- Whatever the reader leaves is an end of what it was given. -/
def Advances (reader : Reader α) : Prop :=
  ∀ ⦃text value rest⦄, reader text = some (value, rest) → rest <:+ text

/-- The reader advances, and always by at least one character. -/
def Consumes (reader : Reader α) : Prop :=
  ∀ ⦃text value rest⦄, reader text = some (value, rest) →
    rest <:+ text ∧ rest.length < text.length

theorem Consumes.advances {reader : Reader α} (consumes : reader.Consumes) : reader.Advances :=
  fun _ _ _ h => (consumes h).1

theorem advances_pure (value : α) : (pure value : Reader α).Advances := by
  intro text v rest h
  cases h
  exact List.suffix_refl _

/-- A chained reader finds what the first reader leaves and goes on from there. -/
theorem bind_eq_some {first : Reader α} {next : α → Reader β} {text : List Char}
    {result : β × List Char} (h : (first >>= next) text = some result) :
    ∃ value rest, first text = some (value, rest) ∧ next value rest = some result := by
  change (first text).bind (fun pair => next pair.1 pair.2) = some result at h
  obtain ⟨⟨value, rest⟩, hfirst, hnext⟩ := Option.bind_eq_some_iff.mp h
  exact ⟨value, rest, hfirst, hnext⟩

theorem Advances.bind {first : Reader α} {next : α → Reader β} (hfirst : first.Advances)
    (hnext : ∀ value, (next value).Advances) : (first >>= next).Advances := by
  intro text v rest h
  obtain ⟨value, middle, h₁, h₂⟩ := bind_eq_some h
  exact (hnext value h₂).trans (hfirst h₁)

theorem Consumes.bind {first : Reader α} {next : α → Reader β} (hfirst : first.Consumes)
    (hnext : ∀ value, (next value).Advances) : (first >>= next).Consumes := by
  intro text v rest h
  obtain ⟨value, middle, h₁, h₂⟩ := bind_eq_some h
  have hsuffix := hnext value h₂
  exact ⟨hsuffix.trans (hfirst h₁).1, Nat.lt_of_le_of_lt hsuffix.length_le (hfirst h₁).2⟩

theorem keyword_consumes {word : String} (nonempty : word.toList ≠ []) :
    (keyword word).Consumes := by
  intro text v rest h
  obtain ⟨r, hr, heq⟩ := Option.map_eq_some_iff.mp h
  cases heq
  exact ⟨stripFolded?_suffix hr, length_lt_of_stripFolded? nonempty hr⟩

theorem literal_consumes (c : Char) : (literal c).Consumes := by
  intro text v rest h
  cases text with
  | nil => simp [literal] at h
  | cons d ds =>
    simp only [literal] at h
    split at h
    · cases h
      exact ⟨List.suffix_cons _ _, by simp⟩
    · simp at h

theorem many_advances (property : Char → Bool) : (many property).Advances := by
  intro text v rest h
  cases h
  exact List.dropWhile_suffix _

theorem many1_advances (property : Char → Bool) : (many1 property).Advances := by
  intro text v rest h
  unfold many1 at h
  split at h
  · simp at h
  · cases h
    exact List.dropWhile_suffix _

theorem literal?_advances (c : Char) : (literal? c).Advances := by
  intro text v rest h
  cases text with
  | nil => cases h; exact List.suffix_refl _
  | cons d ds =>
    simp only [literal?] at h
    split at h <;> cases h
    · exact List.suffix_cons _ _
    · exact List.suffix_refl _

theorem oneOf_advances (words : List String) : (oneOf words).Advances := by
  intro text v rest h
  obtain ⟨word, _, hword⟩ := List.exists_of_findSome?_eq_some h
  obtain ⟨r, hr, heq⟩ := Option.map_eq_some_iff.mp hword
  cases heq
  exact stripFolded?_suffix hr

end Reader

end VisualNovel.Text
