import MeshProxy.Proofs.Persona.Inbound

/-!
# The first read of an inbound session

A session reads its preamble once, as soon as there is something to read. Until then nothing happens to it: whatever its
client's stream goes through, the session is one that greets that client now (`Inbound.after_greet`). So what is to be
shown of all states behind that read is shown of a session that has just read, of what happens to it later, and of the
answer to its dial (`Inbound.follow_of_read`).
-/

namespace MeshProxy

open Relay (Happening arrivals)

namespace Inbound

variable {own : String} {client : Endpoint} {answer : Awaited String}

lemma greet_of_nil (nil : client.source = []) : greet own client = .greeting client := by
  simp only [greet, nil, Preamble.read, Source.read]
  rw [← nil]

/-- What happens to a session that has nothing to read greets the client as it is then. -/
lemma react_greet (nil : client.source = []) (e : Happening) :
    (greet own client).react own e.1 e.2 = greet own (client.hear .client e) := by
  obtain ⟨side, event⟩ := e
  rw [greet_of_nil nil]
  cases side with
  | client => rfl
  | upstream => exact (greet_of_nil nil).symm

/-- Nothing happens to a session as long as there is nothing to read. -/
lemma after_greet {es : List Happening} (nil : client.source ++ arrivals .client es = []) :
    (greet own client).after own es = greet own (client.after .client es) := by
  induction es generalizing client with
  | nil => rfl
  | cons e es ih =>
    rw [Relay.arrivals_cons, ← List.append_assoc, ← Endpoint.source_hear] at nil
    calc (greet own client).after own (e :: es)
        = ((greet own client).react own e.1 e.2).after own es := rfl
      _ = (greet own (client.hear .client e)).after own es := by
        rw [Endpoint.source_hear] at nil
        rw [react_greet (List.append_eq_nil_iff.mp (List.append_eq_nil_iff.mp nil).1).1]
      _ = greet own ((client.hear .client e).after .client es) := ih nil

/-- As long as the client sends nothing, the session greets it. -/
lemma follow_of_nil {course : Course} (nil : course.fromClient = []) :
    ∃ client, follow own course = .greeting client := by
  rw [Course.fromClient] at nil
  obtain ⟨early, later⟩ := List.append_eq_nil_iff.mp nil
  have src := Endpoint.source_after course.client .client course.early
  have none : (course.client.after .client course.early).source = [] := src.trans early
  have rest : (course.client.after .client course.early).source ++ arrivals .client course.later = [] := by
    rw [none, later, List.append_nil]
  -- There is no dial, so the answer to it is not heard.
  have unheard : ((greet own course.client).after own course.early).answer course.reach course.peer =
      greet own (course.client.after .client course.early) := by
    rw [after_greet early, greet_of_nil none]
    rfl
  rw [follow, unheard, after_greet rest]
  refine ⟨_, greet_of_nil ?_⟩
  rw [Endpoint.source_after, rest]

variable {P : Inbound → Prop}

/-- What holds of a session that has just read, whatever the stream of its client is like otherwise. -/
def HoldsOnRead (own : String) (answer : Awaited String) (P : Inbound → Prop) : Prop :=
  ∀ client : Endpoint, client.received = [] → (Preamble.read client.source).1 = answer → P (greet own client)

/-- What every event keeps is kept by all that happens. -/
lemma after_of_kept (kept : ∀ s (e : Happening), P s → P (s.react own e.1 e.2)) {s : Inbound} (holds : P s)
    (es : List Happening) : P (s.after own es) := by
  induction es generalizing s with
  | nil => exact holds
  | cons e es ih => exact ih (kept s e holds)

/-- What holds of a session that has just read and is kept by what happens holds behind the read. -/
lemma after_of_read (greeted : HoldsOnRead own answer P) (kept : ∀ s (e : Happening), P s → P (s.react own e.1 e.2))
    {es : List Happening} (rcv : client.received = [])
    (rd : (Preamble.read (client.source ++ arrivals .client es)).1 = answer) :
    P ((greet own client).after own es) := by
  induction es generalizing client with
  | nil =>
    rw [arrivals, List.flatMap_nil, List.append_nil] at rd
    exact greeted client rcv rd
  | cons e es ih =>
    -- The first read that finds anything decides; until then the session greets the client anew.
    by_cases nil : client.source = []
    · rw [Relay.arrivals_cons, ← List.append_assoc, ← Endpoint.source_hear] at rd
      have rcv : (client.hear .client e).received = [] := by simp [rcv]
      have holds := ih rcv rd
      rw [← react_greet nil] at holds
      exact holds
    · rw [Preamble.read_append nil] at rd
      exact after_of_kept kept (greeted client rcv rd) (e :: es)

/-- If the answer to the dial keeps it as well, it holds in every state behind the read. -/
lemma follow_of_read {course : Course} (greeted : HoldsOnRead own answer P)
    (kept : ∀ s (e : Happening), P s → P (s.react own e.1 e.2))
    (answered : ∀ s, P s → P (s.answer course.reach course.peer))
    (rd : (Preamble.read course.fromClient).1 = answer) : P (follow own course) := by
  have rcv : (course.client.after .client course.early).received = [] := Endpoint.received_after _ _ _
  have src : (course.client.after .client course.early).source =
      course.reads ++ arrivals .client course.early := Endpoint.source_after _ _ _
  by_cases nil : course.reads ++ arrivals .client course.early = []
  · -- The dial cannot be answered before there is one.
    rw [follow, after_greet nil, greet_of_nil (src.trans nil)]
    rw [← src] at nil
    rw [Course.fromClient, ← src] at rd
    have holds : P ((greet own (course.client.after .client course.early)).after own course.later) :=
      after_of_read greeted kept rcv rd
    rw [greet_of_nil nil] at holds
    exact holds
  · rw [Course.fromClient, Preamble.read_append nil] at rd
    have early : P ((greet own course.client).after own course.early) := after_of_read greeted kept rfl rd
    exact after_of_kept kept (answered _ early) course.later

end Inbound

end MeshProxy
