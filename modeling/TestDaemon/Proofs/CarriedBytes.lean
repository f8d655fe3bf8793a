import TestDaemon.Proofs.Dispatching

/-! # Bytes that are carried over

A dispatcher keeps back what is too short for a marker and classifies it in front of the next frame. What is
classified leaves nothing behind, whatever comes of it, so that a frame behind it is dispatched as by a new
dispatcher. Over any row of frames the classified byte strings, and what is carried in the end, are the bytes
of the frames in their order.
-/

namespace TestDaemon

open Request

/-- A list, and the same list with an element put in at any places, any number of times. -/
inductive Interspersed {α : Type} (filler : α) : List α → List α → Prop
  | nil : Interspersed filler [] []
  | keep (element : α) {list longer : List α} (rest : Interspersed filler list longer) :
      Interspersed filler (element :: list) (element :: longer)
  | fill {list longer : List α} (rest : Interspersed filler list longer) :
      Interspersed filler list (filler :: longer)

namespace Dispatcher

variable {dispatcher : Dispatcher} {frame : Bytes}

/-- Whatever is long enough for a marker is dispatched as by a new dispatcher, and leaves one behind. -/
theorem dispatch_of_marked (long : 3 ≤ (dispatcher.carried ++ frame).length) :
    dispatcher.dispatch frame = ((new.dispatch (dispatcher.carried ++ frame)).1, new) ∧
      (new.dispatch (dispatcher.carried ++ frame)).1 ≠ .ok .pending := by
  have alone : new.carried ++ (dispatcher.carried ++ frame) = dispatcher.carried ++ frame := rfl
  rcases Marker.cases_of (dispatcher.carried ++ frame) with short | command | deploy | foreign
  · exact absurd short (Nat.not_lt.mpr long)
  · rw [dispatch_of_command command, dispatch_new_of_command command]
    refine ⟨rfl, fun pending => ?_⟩
    obtain ⟨line, -, same⟩ := map_eq_ok_iff.mp pending
    cases same
  · rw [dispatch_of_deploy deploy, dispatch_of_deploy (alone ▸ deploy)]
    exact ⟨rfl, by simp⟩
  · rw [dispatch_of_foreign foreign, dispatch_of_foreign (alone ▸ foreign)]
    exact ⟨rfl, by simp⟩

theorem dispatch_eq_pending_iff :
    (dispatcher.dispatch frame).1 = .ok .pending ↔ (dispatcher.carried ++ frame).length < 3 := by
  constructor
  · intro pending
    by_contra long
    obtain ⟨dispatched, different⟩ := dispatch_of_marked (Nat.not_lt.mp long)
    rw [dispatched] at pending
    exact different pending
  · intro short
    rw [dispatch_of_short short]

/-- An empty frame changes nothing. -/
theorem dispatch_nil (short : dispatcher.carried.length < 3) :
    dispatcher.dispatch [] = (.ok .pending, dispatcher) := by
  rw [dispatch_of_short (by rwa [List.append_nil]), List.append_nil]

/-! ## Rows of frames -/

/-- The dispatcher behind frames. -/
def after (dispatcher : Dispatcher) : List Bytes → Dispatcher
  | [] => dispatcher
  | frame :: frames => (dispatcher.dispatch frame).2.after frames

/-- The byte strings that are classified: each frame that is not kept back, behind what is carried to it. -/
def classified (dispatcher : Dispatcher) : List Bytes → List Bytes
  | [] => []
  | frame :: frames =>
    let dispatched := dispatcher.dispatch frame
    if dispatched.1 = .ok .pending then dispatched.2.classified frames
    else (dispatcher.carried ++ frame) :: dispatched.2.classified frames

/-- No byte gets lost, is doubled or changes its place. -/
theorem carried_append_flatten (dispatcher : Dispatcher) (frames : List Bytes) :
    dispatcher.carried ++ frames.flatten =
      (dispatcher.classified frames).flatten ++ (dispatcher.after frames).carried := by
  induction frames generalizing dispatcher with
  | nil => simp [classified, after]
  | cons frame frames ih =>
    rw [List.flatten_cons, ← List.append_assoc, after, classified]
    by_cases short : (dispatcher.carried ++ frame).length < 3
    · rw [dispatch_of_short short]
      exact ih ⟨dispatcher.carried ++ frame⟩
    · obtain ⟨dispatched, different⟩ := dispatch_of_marked (Nat.not_lt.mp short)
      have rest : frames.flatten = (new.classified frames).flatten ++ (new.after frames).carried := ih new
      rw [dispatched, if_neg different, List.flatten_cons, List.append_assoc (dispatcher.carried ++ frame),
        rest]

/-- What is found in a byte string depends on nothing before it. -/
theorem filter_dispatchAll (dispatcher : Dispatcher) (frames : List Bytes) :
    (dispatcher.dispatchAll frames).filter (· ≠ .ok .pending) =
      (dispatcher.classified frames).map fun body => (new.dispatch body).1 := by
  induction frames generalizing dispatcher with
  | nil => rfl
  | cons frame frames ih =>
    rw [dispatchAll, classified]
    by_cases short : (dispatcher.carried ++ frame).length < 3
    · rw [dispatch_of_short short, List.filter_cons_of_neg (by simp)]
      exact ih _
    · obtain ⟨dispatched, different⟩ := dispatch_of_marked (Nat.not_lt.mp short)
      rw [dispatched, List.filter_cons_of_pos (by simpa using different), if_neg different, List.map_cons]
      exact congrArg _ (ih new)

/-- Empty frames add results that are pending, at their places, and nothing else. -/
theorem interspersed_dispatchAll {frames more : List Bytes} (filled : Interspersed [] frames more)
    (short : dispatcher.carried.length < 3) :
    Interspersed ([], .ok .pending) (frames.zip (dispatcher.dispatchAll frames))
        (more.zip (dispatcher.dispatchAll more)) ∧
      dispatcher.after more = dispatcher.after frames := by
  induction filled generalizing dispatcher with
  | nil => exact ⟨.nil, rfl⟩
  | keep frame _ ih =>
    obtain ⟨results, last⟩ := ih (carried_dispatch dispatcher frame)
    exact ⟨.keep _ results, last⟩
  | fill _ ih =>
    obtain ⟨results, last⟩ := ih short
    rw [dispatchAll, after, dispatch_nil short]
    exact ⟨.fill results, last⟩

/-- Frames that are too short together for a marker become the head of the next one. -/
theorem dispatchAll_divided {parts : List Bytes} {last : Bytes}
    (short : (dispatcher.carried ++ parts.flatten).length < 3)
    (long : 3 ≤ (dispatcher.carried ++ parts.flatten ++ last).length) :
    dispatcher.dispatchAll (parts ++ [last]) =
        List.replicate parts.length (.ok .pending) ++
          [(new.dispatch (dispatcher.carried ++ parts.flatten ++ last)).1] ∧
      dispatcher.after (parts ++ [last]) = new := by
  induction parts generalizing dispatcher with
  | nil =>
    rw [List.flatten_nil, List.append_nil] at long ⊢
    obtain ⟨dispatched, -⟩ := dispatch_of_marked long
    simp [dispatchAll, after, dispatched]
  | cons part parts ih =>
    rw [List.flatten_cons, ← List.append_assoc] at short long ⊢
    have first : (dispatcher.carried ++ part).length < 3 := by
      rw [List.length_append] at short
      omega
    obtain ⟨results, behind⟩ := @ih ⟨dispatcher.carried ++ part⟩ short long
    rw [List.cons_append, dispatchAll, after, dispatch_of_short first, List.length_cons, List.replicate_succ,
      List.cons_append]
    exact ⟨congrArg _ results, behind⟩

/-! ## What a new dispatcher makes of frames -/

/-- How a dispatcher carries bytes from frame to frame. -/
structure CarriesOver (frames : List Bytes) : Prop where
  /-- Behind each frame two bytes are carried at most, and none if the frame has been classified. -/
  bounded : ∀ prior frame later, frames = prior ++ frame :: later →
    ((new.after prior).dispatch frame).2.carried.length ≤ 2 ∧
      (((new.after prior).dispatch frame).1 ≠ .ok .pending →
        ((new.after prior).dispatch frame).2.carried = [])
  /-- The bytes of the frames are those that are classified and those that are still carried. -/
  kept : frames.flatten = (new.classified frames).flatten ++ (new.after frames).carried
  /-- A frame that is not kept back comes to what its byte string comes to by itself. -/
  results : (new.dispatchAll frames).filter (· ≠ .ok .pending) =
    (new.classified frames).map fun body => (new.dispatch body).1
  /-- Empty frames, wherever they are put in, are pending, and all else stays the same. -/
  empties : ∀ more, Interspersed [] frames more →
    Interspersed ([], .ok .pending) (frames.zip (new.dispatchAll frames))
        (more.zip (new.dispatchAll more)) ∧
      new.after more = new.after frames
  /-- A frame in parts, of which all but the last are too short for a marker together with what is carried,
  is dispatched as in one piece. -/
  divided : ∀ parts last, let head := (new.after frames).carried ++ parts.flatten
    head.length < 3 → 3 ≤ (head ++ last).length →
      (new.after frames).dispatchAll (parts ++ [last]) =
          List.replicate parts.length (.ok .pending) ++ [(new.dispatch (head ++ last)).1] ∧
        (new.after frames).after (parts ++ [last]) = new

/-- Whatever frames a new dispatcher is given, it carries over what is too short for a marker, and no more. -/
theorem carriesOver_frames (frames : List Bytes) : CarriesOver frames where
  bounded prior frame later _ := by
    refine ⟨Nat.le_of_lt_succ (carried_dispatch ..), fun different => ?_⟩
    have long := mt dispatch_eq_pending_iff.mpr different
    rw [(dispatch_of_marked (Nat.not_lt.mp long)).1]
    rfl
  kept := carried_append_flatten new frames
  results := filter_dispatchAll new frames
  empties more filled := interspersed_dispatchAll filled (by decide)
  divided parts last short long := dispatchAll_divided short long

/-- A stop request comes through in three parts, of which the second one is empty. -/
example : new.dispatchAll [[0x43], [], [0x4D, 0x44, 0x20, 0x73, 0x74, 0x6F, 0x70]] =
    [.ok .pending, .ok .pending, .ok (.command stopCommand)] := by
  decide +kernel

end Dispatcher

end TestDaemon
