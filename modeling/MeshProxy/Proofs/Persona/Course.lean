import MeshProxy.Persona.Reach
import MeshProxy.Proofs.Relay.Conservation

/-!
# What a session lives through

A `Course` is everything that comes to a session from outside: what its two streams are like, what happens until its
dial is answered, the answer, and what happens after that. Whatever state a session can reach, some course leads there:
the events before and after the answer are any lists, an answer may come too early to be heard, and it may be silence.
What becomes of a TLS handshake with the next hop is no part of it, and comes on top for an outbound session.

What the two peers have supplied in a course is read off its events alone (`Course.fromClient`, `Course.fromPeer`).
The last lemmas say that the stream of a client that is not read collects what happens to it.
-/

namespace MeshProxy

open Relay (Side Happening arrivals arrivalsOf)

/-- What comes to a session from outside. -/
structure Course where
  /-- What the client's stream holds at the start, and how it takes what is written to it. -/
  reads : Source := []
  sink : Sink := {}
  /-- What happens before the dial is answered. -/
  early : List Happening := []
  /-- The answer to the dial. -/
  reach : Reach
  /-- What the stream behind a connection holds when it is made, and how it takes what is written to it. -/
  peerReads : Source := []
  peerSink : Sink := {}
  /-- What happens after that. -/
  later : List Happening := []

namespace Course

/-- The stream of the client at the start. -/
def client (course : Course) : Endpoint := { source := course.reads, sink := course.sink }

/-- The stream behind a connection when it is made. -/
def peer (course : Course) : Endpoint := { source := course.peerReads, sink := course.peerSink }

/-- All that the client supplies. -/
def fromClient (course : Course) : Source :=
  course.reads ++ arrivals .client course.early ++ arrivals .client course.later

/-- All that the peer behind the connection supplies. -/
def fromPeer (course : Course) : Source := course.peerReads ++ arrivals .upstream course.later

end Course

/-- A stream on `side` after something happens while nobody reads it. -/
def Endpoint.hear (e : Endpoint) (side : Side) (h : Happening) : Endpoint :=
  if h.1 = side then e.apply h.2 else e

/-- A stream after all that happens on its side while nobody reads it. -/
def Endpoint.after (e : Endpoint) (side : Side) (es : List Happening) : Endpoint :=
  es.foldl (fun e h => e.hear side h) e

/-- A value for each of the two directions. -/
def Direction.each {α : Type} (forward backward : α) : Direction → α
  | .forward => forward
  | .backward => backward

/-- What holds of the forward and of the backward direction holds of each. -/
lemma Direction.eq_each {α : Type} {f : Direction → α} {forward backward : α} (fw : f .forward = forward)
    (bw : f .backward = backward) (d : Direction) : f d = each forward backward d := by
  cases d
  · exact fw
  · exact bw

/-- What arrives is added behind what is left of a stream that has been read. -/
lemma Endpoint.apply_source (e : Endpoint) (rest : Source) (event : StreamEvent) :
    Endpoint.apply { e with source := rest } event =
      { e.apply event with source := rest ++ arrivalsOf event } := by
  cases event <;> simp [Endpoint.apply, Endpoint.arrive, arrivalsOf]

/-- A stream that nobody reads keeps what arrives. -/
lemma Endpoint.source_hear (e : Endpoint) (side : Side) (h : Happening) :
    (e.hear side h).source = e.source ++ arrivals side [h] := by
  obtain ⟨place, event⟩ := h
  by_cases eq : place = side <;> simp [hear, arrivals, eq, Relay.source_apply]

@[simp] lemma Endpoint.received_hear (e : Endpoint) (side : Side) (h : Happening) :
    (e.hear side h).received = e.received := by
  simp only [hear]
  split
  · exact Relay.received_apply _ _
  · rfl

/-- A stream that nobody reads collects what arrives on its side. -/
lemma Endpoint.source_after (e : Endpoint) (side : Side) (es : List Happening) :
    (e.after side es).source = e.source ++ arrivals side es := by
  induction es generalizing e with
  | nil => exact (List.append_nil _).symm
  | cons h es ih =>
    rw [Relay.arrivals_cons, ← List.append_assoc, ← source_hear]
    exact ih _

/-- Nothing is received by a stream that nobody writes to. -/
@[simp] lemma Endpoint.received_after (e : Endpoint) (side : Side) (es : List Happening) :
    (e.after side es).received = e.received := by
  induction es generalizing e with
  | nil => rfl
  | cons h es ih => exact (ih _).trans (e.received_hear side h)

/-- Supplying both readers of a relay from a happening adds to each script on its own. -/
lemma Direction.each_append (c u : Source) (e : Happening) :
    (fun d => Direction.each c u d ++ arrivals d.origin [e]) =
      Direction.each (c ++ arrivals .client [e]) (u ++ arrivals .upstream [e]) := by
  funext d
  cases d <;> rfl

end MeshProxy
