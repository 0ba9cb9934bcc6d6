/-
This file is a small library about decoders that read frames off the front of a
buffer. One look at a buffer asks for more bytes, takes a frame, or fails; a
decoder is such a look whose answer, once it is a frame or a failure, does not
change when further bytes arrive. Draining a buffer repeats the look until it no
longer takes a frame.

The main rule says that the cut of a stream into chunks does not matter: feeding
the chunks one by one yields the frames of the whole stream.
-/

import Mathlib.Data.List.Basic

namespace Framing

universe u v w

inductive Look (Byte : Type u) (Frame : Type v) (Error : Type w) where
  | more
  | frame (frame : Frame) (rest : List Byte)
  | error (error : Error)

structure Decoder (Byte : Type u) (Frame : Type v) (Error : Type w) where
  look : List Byte → Look Byte Frame Error
  shorter : ∀ {buffer frame rest}, look buffer = .frame frame rest → rest.length < buffer.length
  frame_append : ∀ {buffer frame rest}, look buffer = .frame frame rest → ∀ later,
    look (buffer ++ later) = .frame frame (rest ++ later)
  error_append : ∀ {buffer error}, look buffer = .error error → ∀ later,
    look (buffer ++ later) = .error error

variable {Byte : Type u} {Frame : Type v} {Error : Type w} (decoder : Decoder Byte Frame Error)

variable {buffer rest : List Byte} {frames : List Frame}

namespace Decoder

def drain (buffer : List Byte) : List Frame × Except Error (List Byte) :=
  match _ : decoder.look buffer with
  | .more => ([], .ok buffer)
  | .error error => ([], .error error)
  | .frame frame rest => (frame :: (drain rest).1, (drain rest).2)
termination_by buffer.length
decreasing_by all_goals exact decoder.shorter ‹_›

variable {decoder}

theorem drain_of_more (asks : decoder.look buffer = .more) :
    decoder.drain buffer = ([], .ok buffer) := by
  rw [drain]
  split <;> simp_all

theorem drain_of_error {error : Error} (fails : decoder.look buffer = .error error) :
    decoder.drain buffer = ([], .error error) := by
  rw [drain]
  split <;> simp_all

theorem drain_of_frame {frame : Frame} (takes : decoder.look buffer = .frame frame rest) :
    decoder.drain buffer = (frame :: (decoder.drain rest).1, (decoder.drain rest).2) := by
  rw [drain]
  split <;> simp_all

/-- What is drained first stays drained: later bytes meet only what was left. -/
theorem drain_append (drained : decoder.drain buffer = (frames, .ok rest)) (later : List Byte) :
    decoder.drain (buffer ++ later) =
      (frames ++ (decoder.drain (rest ++ later)).1, (decoder.drain (rest ++ later)).2) := by
  induction buffer using drain.induct decoder generalizing frames with
  | case1 buffer asks => grind [Prod.mk.injEq, Except.ok.injEq, drain_of_more]
  | case2 buffer error fails =>
    rw [drain_of_error fails] at drained
    cases drained
  | case3 buffer frame left takes inductionHypothesis =>
    rw [drain_of_frame takes, Prod.mk.injEq] at drained
    obtain ⟨rfl, ended⟩ := drained
    rw [drain_of_frame (decoder.frame_append takes later), inductionHypothesis (Prod.ext rfl ended),
      List.cons_append]

theorem drain_append_error {error : Error} (drained : (decoder.drain buffer).2 = .error error)
    (later : List Byte) : (decoder.drain (buffer ++ later)).2 = .error error := by
  induction buffer using drain.induct decoder with
  | case1 buffer asks =>
    rw [drain_of_more asks] at drained
    cases drained
  | case2 buffer other fails =>
    rw [drain_of_error fails] at drained
    rw [drain_of_error (decoder.error_append fails later)]
    exact drained
  | case3 buffer frame left takes inductionHypothesis =>
    rw [drain_of_frame takes] at drained
    rw [drain_of_frame (decoder.frame_append takes later)]
    exact inductionHypothesis drained

/-- What is left holds no further frame. -/
theorem drain_left (drained : decoder.drain buffer = (frames, .ok rest)) :
    decoder.drain rest = ([], .ok rest) := by
  induction buffer using drain.induct decoder generalizing frames with
  | case1 buffer asks => grind [Prod.mk.injEq, Except.ok.injEq, drain_of_more]
  | case2 buffer error fails =>
    rw [drain_of_error fails] at drained
    cases drained
  | case3 buffer frame left takes inductionHypothesis =>
    rw [drain_of_frame takes, Prod.mk.injEq] at drained
    exact inductionHypothesis (Prod.ext rfl drained.2)

/-- When the whole of a buffer drains without a failure, so does every front of it. -/
theorem drain_front {later : List Byte}
    (drained : decoder.drain (buffer ++ later) = (frames, .ok rest)) :
    ∃ first left, decoder.drain buffer = (first, .ok left) ∧
      ∃ second, frames = first ++ second ∧ decoder.drain (left ++ later) = (second, .ok rest) := by
  rcases ended : decoder.drain buffer with ⟨first, error | left⟩
  · have fails := drain_append_error (congrArg Prod.snd ended) later
    rw [drained] at fails
    cases fails
  refine ⟨first, left, rfl, (decoder.drain (left ++ later)).1, ?_⟩
  rw [drain_append ended, Prod.mk.injEq] at drained
  exact ⟨drained.1.symm, Prod.ext rfl drained.2⟩

/-- A stream of encoded frames drains to the frames, and leaves a tail that asks for more. -/
theorem drain_encoded {encode : Frame → List Byte} {tail : List Byte}
    (decodes : ∀ frame ∈ frames, ∀ later,
      decoder.look (encode frame ++ later) = .frame frame later)
    (asks : decoder.look tail = .more) :
    decoder.drain (frames.flatMap encode ++ tail) = (frames, .ok tail) := by
  induction frames with
  | nil => exact drain_of_more asks
  | cons frame frames inductionHypothesis =>
    obtain ⟨first, others⟩ := List.forall_mem_cons.mp decodes
    rw [List.flatMap_cons, List.append_assoc, drain_of_frame (first _),
      inductionHypothesis others]

end Decoder

end Framing
