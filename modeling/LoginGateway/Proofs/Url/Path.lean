import LoginGateway.Url.Path
import LoginGateway.Proofs.Url.Marks

/-!
A path that is taken from clean pieces has clean segments, whatever is taken back on the way.
-/
set_option autoImplicit false

namespace LoginGateway.Url.Path

theorem shorten_subset (segments : List Segment) : ∀ segment ∈ shorten segments, segment ∈ segments := by
  intro segment member
  cases segments with
  | nil => exact member
  | cons last done =>
      rw [shorten] at member
      by_cases drive : isDrive last
      · rw [if_pos drive] at member
        exact member
      · rw [if_neg drive] at member
        exact List.mem_cons_of_mem last member

theorem drive_mark (letter : Char) (rest : List Char) (clear : Clean (letter :: rest)) : Clean [letter, ':'] :=
  clean_cons letter _ (clear letter List.mem_cons_self) (clean_cons ':' _ (by decide) clean_nil)

theorem divided_clean (piece : Piece) (drive segment : Segment) (clear : ∀ line ∈ piece, Clean line)
    (divided : divided? piece = some (drive, segment)) : Clean drive ∧ Clean segment := by
  unfold divided? at divided
  split at divided
  · split at divided
    · cases divided
      refine ⟨drive_mark _ _ (clear _ List.mem_cons_self), flatten_clean _ fun line member => clear line ?_⟩
      exact List.mem_cons_of_mem _ member
    · cases divided
  · split at divided
    · cases divided
      refine ⟨drive_mark _ _ (clear _ List.mem_cons_self), flatten_clean _ fun line member => clear line ?_⟩
      exact List.mem_cons_of_mem _ (List.mem_cons_of_mem _ member)
    · cases divided
  · cases divided

theorem drive_clean (segment drive : Segment) (clear : Clean segment) (found : drive? segment = some drive) :
    Clean drive := by
  unfold drive? at found
  split at found
  · split at found
    · cases found
      exact drive_mark _ _ clear
    · cases found
  · cases found

theorem take_first_clean (piece : Piece) (clear : ∀ line ∈ piece, Clean line) :
    ∀ segment ∈ (takeFirst piece).segments, Clean segment := by
  have whole := flatten_clean piece clear
  rw [takeFirst]
  cases divided : divided? piece with
  | some parts =>
      obtain ⟨drive, segment⟩ := parts
      obtain ⟨first, second⟩ := divided_clean piece drive segment clear divided
      simp only [List.mem_cons, List.not_mem_nil, or_false]
      rintro other (rfl | rfl)
      · exact second
      · exact first
  | none =>
      cases found : drive? piece.flatten with
      | some drive => simpa using drive_clean _ drive whole found
      | none => simpa using whole

theorem take_clean (isFile : Bool) (taken : Taken) (pieces : List Piece)
    (before : ∀ segment ∈ taken.segments, Clean segment)
    (clear : ∀ piece ∈ pieces, ∀ line ∈ piece, Clean line) :
    ∀ segment ∈ (take isFile taken pieces).segments, Clean segment := by
  induction pieces generalizing taken with
  | nil => exact before
  | cons piece rest ih =>
      have later : ∀ piece ∈ rest, ∀ line ∈ piece, Clean line := fun other member =>
        clear other (List.mem_cons_of_mem piece member)
      have here : ∀ line ∈ piece, Clean line := clear piece List.mem_cons_self
      have join (segment : Segment) (done : List Segment) (first : Clean segment)
          (others : ∀ segment ∈ done, Clean segment) : ∀ other ∈ segment :: done, Clean other := by
        intro other member
        rcases List.mem_cons.mp member with rfl | old
        · exact first
        · exact others other old
      rw [take]
      dsimp only
      by_cases dots : isHere piece.flatten || isUp piece.flatten
      · rw [if_pos dots]
        apply ih _ _ later
        have kept : ∀ segment ∈ (if isUp piece.flatten then shorten taken.segments else taken.segments),
            Clean segment := by
          by_cases up : isUp piece.flatten
          · rw [if_pos up]
            exact fun segment member => before segment (shorten_subset _ segment member)
          · rw [if_neg up]
            exact before
        dsimp only
        by_cases ends : rest.isEmpty
        · rw [if_pos ends]
          exact join [] _ clean_nil kept
        · rw [if_neg ends]
          exact kept
      · rw [if_neg dots]
        by_cases first : isFile && taken.segments.isEmpty
        · rw [if_pos first]
          exact ih _ (take_first_clean piece here) later
        · rw [if_neg first]
          exact ih _ (join _ _ (flatten_clean piece here) before) later

theorem segments_text_clean (parts : List Segment) (clear : ∀ part ∈ parts, Clean part) :
    Clean (Path.segments parts).toText := by
  intro c member
  obtain ⟨part, among, inside⟩ := List.mem_flatMap.mp member
  exact clean_cons '/' part (by decide) (clear part among) c inside

theorem collapse_clean (segments : List Segment) (clear : ∀ segment ∈ segments, Clean segment) :
    ∀ segment ∈ collapse segments, Clean segment := by
  rw [collapse]
  split
  · simpa using clean_nil
  · intro segment member
    exact clear segment ((List.dropWhile_sublist List.isEmpty).subset member)

end LoginGateway.Url.Path
