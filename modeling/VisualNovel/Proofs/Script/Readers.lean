/-
# What readers take from a text of known parts

The grammar of directives is given by readers, which say how a text is taken apart. Here a text is
put together, and a reader is said to take a part of it when it stops exactly behind that part with
the value that was meant. Readers that run in a chain take the parts of a text one after the other,
so what a directive's reader does with a text is found part by part, with everything behind the part
still in view: that is what decides where a run of characters stops.
-/

import VisualNovel.Proofs.Text.Keyword
import VisualNovel.Script.Consumption

namespace VisualNovel.Text

/-- Where only one candidate has a value, that value is the first that is found. -/
theorem findSome?_eq_some_of_unique {ι β : Type} {read : ι → Option β} {candidates : List ι}
    {chosen : ι} {value : β} (hmem : chosen ∈ candidates) (hchosen : read chosen = some value)
    (hunique : ∀ other ∈ candidates, (read other).isSome → other = chosen) :
    candidates.findSome? read = some value := by
  have hsome : (candidates.findSome? read).isSome := by
    rw [List.findSome?_isSome_iff]
    exact ⟨chosen, hmem, Option.isSome_of_eq_some hchosen⟩
  obtain ⟨found, hfound⟩ := Option.isSome_iff_exists.mp hsome
  obtain ⟨first, hfirst, hread⟩ := List.exists_of_findSome?_eq_some hfound
  obtain rfl := hunique first hfirst (Option.isSome_of_eq_some hread)
  rw [hfound, ← hread, hchosen]

/-- Nothing of the text is taken by a run of characters with the property. -/
def Stops (property : Char → Bool) (text : List Char) : Prop := ∀ c ∈ text.head?, property c = false

theorem stops_nil (property : Char → Bool) : Stops property [] := by simp [Stops]

theorem stops_cons {property : Char → Bool} {c : Char} {rest : List Char}
    (hc : property c = false) : Stops property (c :: rest) := by simpa [Stops] using hc

theorem takeWhile_of_stops {property : Char → Bool} {run rest : List Char}
    (hrun : ∀ c ∈ run, property c = true) (hstops : Stops property rest) :
    (run ++ rest).takeWhile property = run := by
  rw [List.takeWhile_append_of_pos hrun]
  cases rest with
  | nil => simp
  | cons c cs => simp [hstops c rfl]

theorem dropWhile_of_stops {property : Char → Bool} {run rest : List Char}
    (hrun : ∀ c ∈ run, property c = true) (hstops : Stops property rest) :
    (run ++ rest).dropWhile property = rest := by
  rw [List.dropWhile_append_of_pos hrun]
  cases rest with
  | nil => rfl
  | cons c cs => simp [hstops c rfl]

namespace Reader

variable {α β : Type}

/-- A chain goes on from what its first reader leaves. -/
theorem bind_of_eq_some {first : Reader α} {next : α → Reader β} {text rest : List Char} {value : α}
    (hfirst : first text = some (value, rest)) : (first >>= next) text = next value rest := by
  change (first text).bind (fun pair => next pair.1 pair.2) = _
  rw [hfirst]
  rfl

/-- In front of the rest, the reader takes the written part and reads the value. -/
def Takes (reader : Reader α) (written : List Char) (value : α) (rest : List Char) : Prop :=
  reader (written ++ rest) = some (value, rest)

/-- A chain takes what its readers take. -/
theorem Takes.bind {first : Reader α} {next : α → Reader β} {before behind rest : List Char}
    {value : α} {result : β} (hfirst : first.Takes before value (behind ++ rest))
    (hnext : (next value).Takes behind result rest) :
    (first >>= next).Takes (before ++ behind) result rest := by
  unfold Takes at *
  rw [List.append_assoc, bind_of_eq_some hfirst]
  exact hnext

theorem takes_pure (value : α) (rest : List Char) :
    (pure value : Reader α).Takes [] value rest := rfl

/-- A chain that ends with a value takes what the reader before takes. -/
theorem Takes.bind_pure {first : Reader α} {written rest : List Char} {value : α}
    (result : α → β) (hfirst : first.Takes written value rest) :
    (first >>= fun value => pure (result value)).Takes written (result value) rest := by
  have hchain : (first >>= fun value => pure (result value)).Takes (written ++ []) (result value)
      rest := Takes.bind hfirst (takes_pure _ _)
  rwa [List.append_nil] at hchain

theorem keyword_takes {word : String} {mark : List Char} (hmark : Spells word mark)
    (rest : List Char) : (keyword word).Takes mark () rest := by
  unfold Takes keyword
  rw [stripFolded?_of_spells hmark]
  rfl

theorem literal_takes (c : Char) (rest : List Char) : (literal c).Takes [c] () rest := if_pos rfl

theorem literal?_takes (c : Char) (rest : List Char) : (literal? c).Takes [c] true rest :=
  if_pos rfl

/-- A mark that may be missing is missing where another character stands. -/
theorem literal?_takes_nil {c : Char} {rest : List Char} (hstops : Stops (· == c) rest) :
    (literal? c).Takes [] false rest := by
  cases rest with
  | nil => rfl
  | cons d ds =>
    have hother : d ≠ c := by simpa using hstops d rfl
    exact if_neg hother

theorem many_takes {property : Char → Bool} {run rest : List Char}
    (hrun : ∀ c ∈ run, property c = true) (hstops : Stops property rest) :
    (many property).Takes run run rest := by
  unfold Takes many
  rw [takeWhile_of_stops hrun hstops, dropWhile_of_stops hrun hstops]

theorem many_takes_nil {property : Char → Bool} {rest : List Char} (hstops : Stops property rest) :
    (many property).Takes [] [] rest :=
  many_takes (List.forall_mem_nil _) hstops

theorem many1_takes {property : Char → Bool} {run rest : List Char} (hnonempty : run ≠ [])
    (hrun : ∀ c ∈ run, property c = true) (hstops : Stops property rest) :
    (many1 property).Takes run run rest := by
  unfold Takes many1
  rw [takeWhile_of_stops hrun hstops, dropWhile_of_stops hrun hstops]
  cases run with
  | nil => exact absurd rfl hnonempty
  | cons c cs => rfl

/-- Of several ASCII keywords, none of which is the beginning of another, the one that is written is
taken as it is spelled. -/
theorem oneOf_takes {words : List String} {word : String} {written : List Char}
    (hmem : word ∈ words) (hascii : ∀ word ∈ words, IsAscii word.toList)
    (hfree : ∀ word ∈ words, ∀ other ∈ words, word.toList <+: other.toList → word = other)
    (hwritten : Spells word written) (rest : List Char) :
    (oneOf words).Takes written written rest := by
  have hlength : word.toList.length = written.length := by
    rw [← hwritten, List.length_map]
  have hspelled : stripFolded? word.toList (written ++ rest) = some rest :=
    stripFolded?_of_spells hwritten
  apply findSome?_eq_some_of_unique hmem
  · rw [hspelled, hlength]
    simp
  · intro other hother hsome
    have hleft : (stripFolded? other.toList (written ++ rest)).isSome := by simpa using hsome
    rcases prefix_or_prefix_of_stripFolded? (hascii other hother) (hascii word hmem) hleft
      (Option.isSome_of_eq_some hspelled) with hbegins | hbegins
    · exact hfree other hother word hmem hbegins
    · exact (hfree word hmem other hother hbegins).symm

end Reader

end VisualNovel.Text
