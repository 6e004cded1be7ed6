/-
# The runs of a text that is cut

A text is gone through character by character, with a bracket that may still turn out to be no tag,
a buffer, and a style that tags change. Against this stands the cut of the text at its tags: each
stretch makes one run, its pause told by the tags directly in front of it and its effects by all
tags in front of it.

The two agree in three steps. Text without tags goes into the buffer as it stands, whatever brackets
are in it. Tags in front of a stretch close the run before and set the pause and the style. By
induction on the cut, the runs are then those of the stretches.
-/

import VisualNovel.Proofs.Dialogue.Source
import VisualNovel.Proofs.Dialogue.Stretches
import VisualNovel.Proofs.Dialogue.Style

namespace VisualNovel.Dialogue

open Text

/-- The run of a stretch behind the tags, which are all tags in front of it. -/
def Stretch.run (styled : Bool) (stretch : Stretch) (tags : List Tag) : Run where
  content := String.ofList stretch.content
  pause := pauseBehind? stretch.tags
  effects := if styled then effectsBehind tags else []

/-- The runs of stretches, one for each. -/
def shown (styled : Bool) (stretches : List Stretch) : List Run :=
  stretches.mapIdx fun i stretch =>
    stretch.run styled ((stretches.take (i + 1)).flatMap (·.tags))

/-- What is read off a run without regard to its effects is read off its stretch. -/
theorem map_shown {Value : Type} {read : Run → Value} {told : Stretch → Value} {styled : Bool}
    (hread : ∀ stretch tags, read (stretch.run styled tags) = told stretch)
    (stretches : List Stretch) : (shown styled stretches).map read = stretches.map told := by
  refine List.ext_getElem (by simp [shown]) fun i hrun hstretch => ?_
  simp [shown, hread]

namespace Progress

variable {styled : Bool} {rest : List Char}

/-- How far one has got behind the text. -/
def across (styled : Bool) (progress : Progress) (text : List Char) : Progress :=
  (pieces text).foldl (step styled) progress

/-- The state with more text in the buffer. -/
def push (progress : Progress) (text : List Char) : Progress :=
  { progress with buffer := text.reverse ++ progress.buffer }

theorem push_push (progress : Progress) (text more : List Char) :
    (progress.push text).push more = progress.push (text ++ more) := by
  simp [push]

theorem foldl_char (progress : Progress) (text : List Char) :
    (text.map Piece.char).foldl (step styled) progress = progress.push text := by
  induction text generalizing progress with
  | nil => rfl
  | cons c text ih =>
    rw [List.map_cons, List.foldl_cons, ih]
    exact push_push progress [c] text

/-- The text behind an open bracket, with the bracket. -/
def opened (pending : Option (List Char)) : List Char :=
  (pending.map fun body => '[' :: body.reverse).getD []

theorem foldl_unclosed (progress : Progress) (body : List Char) :
    (unclosed body).foldl (step styled) progress = progress.push (opened (some body)) :=
  foldl_char progress ('[' :: body.reverse)

/-- A bracket group that is no tag goes into the buffer as it stands. -/
theorem step_group_of_not_isTag {body : List Char} (hbody : IsGroupBody body)
    (hnone : ¬ IsTag (bracketed body)) (progress : Progress) :
    step styled progress (.group body) = progress.push (bracketed body) := by
  have hread : Tag.ofBody? body = none := by
    rw [Option.eq_none_iff_forall_ne_some]
    exact fun found hfound => hnone ⟨found, Tag.isWritten_of_ofBody? hbody hfound⟩
  simp [step, hread, push, bracketed]

/-- Text without tags goes into the buffer with what is behind an open bracket, where a tag or the
end follows. -/
theorem foldl_piecesFrom_append {pending : Option (List Char)} {content : List Char}
    (hbody : ∀ body ∈ pending, IsGroupBody body.reverse)
    (hfree : Free IsTag (opened pending ++ content)) (hrest : Resumes '[' rest)
    (progress : Progress) :
    (piecesFrom pending (content ++ rest)).foldl (step styled) progress =
      (progress.push (opened pending ++ content)).across styled rest := by
  induction content generalizing pending progress with
  | nil =>
    cases pending with
    | none => rfl
    | some body =>
      rw [List.append_nil, List.nil_append]
      cases rest with
      | nil => exact foldl_unclosed progress body
      | cons c rest =>
        obtain rfl : c = '[' := hrest c rfl
        rw [piecesFrom, if_pos rfl, List.foldl_append, foldl_unclosed]
        rfl
  | cons c content ih =>
    have hclosed : ∀ body ∈ (none : Option (List Char)), IsGroupBody body.reverse := by simp
    have hopened : ∀ body ∈ some ([] : List Char), IsGroupBody body.reverse := by
      simp [IsGroupBody]
    have hhere : Free IsTag (c :: content) := hfree.of_infix (List.suffix_append _ _).isInfix
    have hlater : Free IsTag content := hhere.of_infix (List.suffix_cons c content).isInfix
    cases pending with
    | none =>
      rw [List.cons_append, piecesFrom]
      split_ifs with hopening
      · subst hopening
        exact ih hopened hfree progress
      · rw [List.foldl_cons, ih hclosed hlater]
        exact congrArg (across styled · rest) (push_push progress [c] content)
    | some body =>
      rw [List.cons_append, piecesFrom]
      -- A further bracket opens, the open one is closed, the line ends, or the body goes on.
      split_ifs with hopening hclosing hline
      · subst hopening
        rw [List.foldl_append, foldl_unclosed, ih hopened hhere, push_push]
        rfl
      · subst hclosing
        have hgroup : opened (some body) ++ ']' :: content = bracketed body.reverse ++ content := by
          simp [opened, bracketed]
        have hnone : ¬ IsTag (bracketed body.reverse) :=
          hfree _ (hgroup ▸ (List.prefix_append _ content).isInfix)
        rw [List.foldl_cons, step_group_of_not_isTag (hbody body rfl) hnone, ih hclosed hlater,
          push_push, hgroup]
        rfl
      · rw [List.foldl_append, foldl_unclosed, List.foldl_cons, ih hclosed hlater]
        exact congrArg (across styled · rest)
          (push_push (progress.push (opened (some body))) [c] content |>.trans (push_push ..))
      · have hlonger :
            opened (some (c :: body)) ++ content = opened (some body) ++ c :: content := by
          simp [opened]
        rw [ih _ (hlonger ▸ hfree), hlonger]
        rintro _ ⟨⟩
        obtain ⟨hopenings, hclosings, hlines⟩ := hbody body rfl
        simp_all [IsGroupBody, eq_comm]

/-- Text without tags goes into the buffer, where a tag or the end follows. -/
theorem across_append_of_free {content : List Char} (hfree : Free IsTag content)
    (hrest : Resumes '[' rest) (progress : Progress) :
    progress.across styled (content ++ rest) = (progress.push content).across styled rest :=
  @foldl_piecesFrom_append styled rest none content (by simp) hfree hrest progress

theorem piecesFrom_append_closing {body : List Char} (hbody : IsGroupBody body)
    (read : List Char) :
    piecesFrom (some read) (body ++ ']' :: rest) =
      .group (read.reverse ++ body) :: piecesFrom none rest := by
  induction body generalizing read with
  | nil => simp [piecesFrom]
  | cons c body ih =>
    obtain ⟨hopening, hclosing, hline⟩ := hbody
    rw [List.mem_cons, not_or] at hopening hclosing hline
    rw [List.cons_append, piecesFrom, if_neg (Ne.symm hopening.1), if_neg (Ne.symm hclosing.1),
      if_neg (Ne.symm hline.1), ih ⟨hopening.2, hclosing.2, hline.2⟩]
    simp

theorem across_append_of_isWritten {found : Tag} {mark : List Char} (hmark : found.IsWritten mark)
    (progress : Progress) :
    progress.across styled (mark ++ rest) = (progress.tag styled found).across styled rest := by
  obtain ⟨body, hbody, htag, rfl⟩ := hmark
  have hpieces : pieces (bracketed body ++ rest) = .group body :: pieces rest := by
    rw [bracketed, List.cons_append, List.append_assoc, pieces, piecesFrom, if_pos rfl]
    exact piecesFrom_append_closing hbody []
  rw [across, hpieces, List.foldl_cons, step, Tag.ofBody?_eq_some_iff.mpr htag]
  rfl

/-- Tags are gone over one after the other. -/
theorem across_append_of_written {tags : List Tag} {written : List Char}
    (hwritten : Written tags written) (progress : Progress) :
    progress.across styled (written ++ rest) =
      (tags.foldl (tag styled) progress).across styled rest := by
  induction hwritten generalizing progress with
  | nil => rfl
  | cons htag _ ih =>
    rw [List.append_assoc, across_append_of_isWritten htag, ih]
    rfl

theorem across_of_written {tags : List Tag} {written : List Char} (hwritten : Written tags written)
    (progress : Progress) : progress.across styled written = tags.foldl (tag styled) progress := by
  have hend : progress.across styled (written ++ []) = _ :=
    across_append_of_written hwritten progress
  rwa [List.append_nil] at hend

/-- The pause before a run is read off the tags in front of it. -/
theorem pause_of_written {tags : List Tag} {written : List Char} (hwritten : Written tags written) :
    ((tags.filterMap Tag.pause?).getLast?.map pauseOf).getD none = pauseBehind? tags := by
  unfold pauseBehind?
  cases hlast : (tags.filterMap Tag.pause?).getLast? with
  | none => rfl
  | some digits =>
    obtain ⟨found, hfound, hdigits⟩ := List.mem_filterMap.mp (List.mem_of_getLast? hlast)
    obtain ⟨body, hbody⟩ := hwritten.exists_hasBody hfound
    cases found <;> cases hdigits
    exact pauseOf_eq hbody

theorem close_close (progress : Progress) :
    (progress.close styled).close styled = progress.close styled := by
  unfold close
  split_ifs <;> simp_all

/-- A tag closes the run before it, so that it may as well be closed in front of the tag. -/
theorem tag_close (progress : Progress) (found : Tag) :
    (progress.close styled).tag styled found = progress.tag styled found := by
  simp only [tag, close_close]

theorem foldl_tag_close {tags : List Tag} (htags : tags ≠ []) (progress : Progress) :
    tags.foldl (tag styled) (progress.close styled) = tags.foldl (tag styled) progress := by
  obtain ⟨found, others, rfl⟩ := List.exists_cons_of_ne_nil htags
  rw [List.foldl_cons, List.foldl_cons, tag_close]

variable {stretches : List Stretch} {last : List Tag} {text : List Char}

/-- Behind a stretch its run is closed, by the next tag or at the end. -/
theorem close_across_close (hcut : Cut stretches last text)
    (happart : ∀ next ∈ stretches.head?, next.tags ≠ []) (progress : Progress) :
    ((progress.close styled).across styled text).close styled =
      (progress.across styled text).close styled := by
  cases hcut with
  | done hlast =>
    rw [across_of_written hlast, across_of_written hlast]
    by_cases htags : last = []
    · rw [htags]
      exact close_close progress
    · rw [foldl_tag_close htags]
  | cons hwritten =>
    rw [across_append_of_written hwritten, across_append_of_written hwritten,
      foldl_tag_close (happart _ rfl)]

/-- The runs that are made over a text that is cut, where nothing has collected. -/
theorem runs_across (hcut : Cut stretches last text) (before : List Tag) {progress : Progress}
    (hbuffer : progress.buffer = []) (hpause : progress.pause = none)
    (hstyle : progress.style = before.foldl Style.after {}) :
    ((progress.across styled text).close styled).runs =
      (stretches.mapIdx fun i stretch =>
        stretch.run styled (before ++ (stretches.take (i + 1)).flatMap (·.tags))).reverse ++
        progress.runs := by
  induction hcut generalizing before progress with
  | done hlast =>
    rw [across_of_written hlast, foldl_tag_of_empty hbuffer]
    simp [close, hbuffer]
  | @cons stretch more last written rest hwritten hcontent hfree hmore happart ih =>
    rw [across_append_of_written hwritten, foldl_tag_of_empty hbuffer,
      across_append_of_free hfree (hmore.resumes happart), ← close_across_close hmore happart,
      hpause, pause_of_written hwritten, hstyle, ← List.foldl_append]
    have hclosed : ((({ progress with
          pause := pauseBehind? stretch.tags
          style := (before ++ stretch.tags).foldl Style.after {} } : Progress).push
            stretch.content).close styled) =
        { runs := stretch.run styled (before ++ stretch.tags) :: progress.runs
          style := (before ++ stretch.tags).foldl Style.after {} } := by
      simp [close, push, hbuffer, hcontent, Stretch.run, ← effects_foldl_after]
    rw [hclosed, ih (before ++ stretch.tags) rfl rfl rfl, List.mapIdx_cons]
    simp

end Progress

variable {raw text : List Char} {player : String} {stretches : List Stretch} {last : List Tag}

theorem runs_eq_across (styled : Bool) (hshown : IsShown raw player text) :
    runs raw styled player = ((Progress.across styled {} text).close styled).runs.reverse := by
  rw [← isShown_iff.mp hshown]
  rfl

/-- The runs of a text are those of its stretches. -/
theorem runs_of_cut (styled : Bool) (hshown : IsShown raw player text)
    (hcut : Cut stretches last text) : runs raw styled player = shown styled stretches := by
  rw [runs_eq_across styled hshown, Progress.runs_across hcut [] rfl rfl rfl, List.append_nil,
    List.reverse_reverse]
  rfl

/-- The runs of every text, as the player is shown it: it is cut at its tags, each stretch makes one
run, the tags since the stretch before tell its pause, and all tags in front of it its effects. -/
theorem runs_eq_iff {styled : Bool} {made : List Run} :
    runs raw styled player = made ↔
      ∃ text stretches last, IsShown raw player text ∧ Cut stretches last text ∧
        made = shown styled stretches := by
  constructor
  · rintro rfl
    have hshown : IsShown raw player (source raw player) := isShown_iff.mpr rfl
    obtain ⟨stretches, last, hcut⟩ := exists_cut (source raw player)
    exact ⟨_, stretches, last, hshown, hcut, runs_of_cut styled hshown hcut⟩
  · rintro ⟨text, stretches, last, hshown, hcut, rfl⟩
    exact runs_of_cut styled hshown hcut

end VisualNovel.Dialogue
