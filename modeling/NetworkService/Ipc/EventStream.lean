import NetworkService.Ipc.ReactorMoves
import NetworkService.Library.Execution

/-!
# The events of a rebased client

A client that is subscribed when it gets a snapshot has, from then on, every event of the server in
its queue, and the numbers follow the one that the snapshot names.  So the client's `RebaseTracker`
accepts all of them, however the turns of the reactor interleave and whatever becomes of the other
clients.
-/

namespace NetworkService.Ipc

open Execution

/-! ### Feeding a tracker -/

namespace RebaseTracker

/-- Each answer, with the last sequence number after it, and the tracker at the end. -/
def observeAll (tracker : RebaseTracker) :
    List EventRecord → List (EventDecision × UInt64) × RebaseTracker
  | [] => ([], tracker)
  | event :: events =>
    let (decision, next) := tracker.observeEvent event.generation event.seq
    let (answers, final) := next.observeAll events
    ((decision, next.lastSequence) :: answers, final)

theorem observeAll_concat (tracker : RebaseTracker) (events : List EventRecord)
    (event : EventRecord) :
    tracker.observeAll (events ++ [event]) =
      let answer := (tracker.observeAll events).2.observeEvent event.generation event.seq
      ((tracker.observeAll events).1 ++ [(answer.1, answer.2.lastSequence)], answer.2) := by
  induction events generalizing tracker with
  | nil => rfl
  | cons first events ih =>
    rw [List.cons_append]
    simp only [observeAll]
    rw [ih]
    rfl

end RebaseTracker

/-! ### Events among the offers -/

def Offer.event? (offer : Offer) : Option EventRecord :=
  match offer.stamp with
  | .event event => some event
  | _ => none

/-- The EVENT frames that entered the queue, with the server's last number when each did. -/
def Offer.enqueued? (offer : Offer) : Option (EventRecord × UInt64) :=
  if offer.accepted then offer.event?.map fun event => (event, offer.lastSequence) else none

def enqueuedEvents (offers : List Offer) : List (EventRecord × UInt64) :=
  offers.filterMap Offer.enqueued?

/-- The EVENT frames that were given to `enqueue_frame`. -/
def offeredEvents (offers : List Offer) : List EventRecord := offers.filterMap Offer.event?

theorem FairOffer.event?_none {generation last : UInt64} {client : ClientState} {offer : Offer}
    (h : FairOffer generation last client offer) : offer.event? = none := by
  unfold Offer.event?
  split
  next event hstamp => exact absurd hstamp (h.notEvent event)
  · rfl

theorem enqueuedEvents_concat (offers : List Offer) (offer : Offer) :
    enqueuedEvents (offers ++ [offer]) = enqueuedEvents offers ++ offer.enqueued?.toList := by
  unfold enqueuedEvents
  rw [List.filterMap_append]
  cases h : offer.enqueued? <;> simp [h]

theorem offeredEvents_concat (offers : List Offer) (offer : Offer) :
    offeredEvents (offers ++ [offer]) = offeredEvents offers ++ offer.event?.toList := by
  unfold offeredEvents
  rw [List.filterMap_append]
  cases h : offer.event? <;> simp [h]

/-- A baseline in a history that has grown by one offer is the new offer or an old baseline. -/
theorem concat_eq_append_cons {α : Type} {offers before after : List α} {offer baseline : α}
    (h : offers ++ [offer] = before ++ baseline :: after) :
    (offer = baseline ∧ after = []) ∨
      ∃ earlier, after = earlier ++ [offer] ∧ offers = before ++ baseline :: earlier := by
  rcases List.eq_nil_or_concat after with rfl | ⟨earlier, last, rfl⟩
  · obtain ⟨-, hlast⟩ := List.append_inj' h rfl
    exact .inl ⟨List.head_eq_of_cons_eq hlast, rfl⟩
  · rw [List.concat_eq_append, ← List.cons_append, ← List.append_assoc] at h
    obtain ⟨hinit, hlast⟩ := List.append_inj' h rfl
    obtain rfl := List.head_eq_of_cons_eq hlast
    exact .inr ⟨earlier, by rw [List.concat_eq_append], hinit⟩

/-! ### The invariant of a client -/

/-- What has been offered since a snapshot with the number `n`: the tracker of the client accepts
what entered the queue, and a client that still receives events has been offered all of them. -/
structure Follows (generation last : UInt64) (issued : List Issued) (client : ClientState)
    (n : UInt64) (after : List Offer) : Prop where
  answers : ((RebaseTracker.upTo generation n).observeAll
      ((enqueuedEvents after).map Prod.fst)).1 =
    (enqueuedEvents after).map fun entry => (.accept, entry.2)
  bounded : n.toNat ≤ issued.length
  offered : offeredEvents after <+: (issued.drop n.toNat).map Issued.event
  current : client.receivesEvents = true →
    ((RebaseTracker.upTo generation n).observeAll ((enqueuedEvents after).map Prod.fst)).2 =
        RebaseTracker.upTo generation last ∧
      offeredEvents after = (issued.drop n.toNat).map Issued.event

/-- The invariant of the record of one client. -/
structure Tracked (generation last : UInt64) (issued : List Issued) (client : ClientState) :
    Prop where
  wellformed : client.Wellformed
  honest : ∀ offer ∈ client.offers, offer.Honest
  subscribed : ∀ offer ∈ client.offers, offer.subscribed = true → client.subscribed = true
  follows : ∀ before baseline after requestId g n snapshot,
    client.offers = before ++ baseline :: after →
    baseline.stamp = .snapshot requestId g n snapshot → baseline.accepted = true →
    baseline.subscribed = true →
    g = generation ∧ baseline.lastSequence = n ∧ Follows generation last issued client n after

variable {generation last : UInt64} {issued : List Issued} {client after : ClientState}

/-- A snapshot names the last event: there is nothing to follow yet. -/
theorem Follows.start (h : issued.length = last.toNat) (client : ClientState) :
    Follows generation last issued client last [] := by
  have hdrop : issued.drop last.toNat = [] := List.drop_eq_nil_of_le (Nat.le_of_eq h)
  refine ⟨rfl, Nat.le_of_eq h.symm, ?_, fun _ => ⟨rfl, ?_⟩⟩
  · rw [hdrop]
    exact List.nil_prefix
  · rw [hdrop]
    rfl

/-- A client that goes on receiving keeps what it has. -/
theorem Follows.of_receives {n : UInt64} {offers : List Offer}
    (h : Follows generation last issued client n offers)
    (hrec : after.receivesEvents = true → client.receivesEvents = true) :
    Follows generation last issued after n offers :=
  ⟨h.answers, h.bounded, h.offered, fun hr => h.current (hrec hr)⟩

theorem Follows.concat_other {n : UInt64} {offers : List Offer} {offer : Offer}
    (h : Follows generation last issued client n offers) (hevent : offer.event? = none) :
    Follows generation last issued client n (offers ++ [offer]) := by
  have henqueued : enqueuedEvents (offers ++ [offer]) = enqueuedEvents offers := by
    rw [enqueuedEvents_concat]
    simp [Offer.enqueued?, hevent]
  have hoffered : offeredEvents (offers ++ [offer]) = offeredEvents offers := by
    rw [offeredEvents_concat, hevent]
    simp
  exact ⟨by rw [henqueued]; exact h.answers, h.bounded, by rw [hoffered]; exact h.offered,
    by rw [henqueued, hoffered]; exact h.current⟩

/-- A move of the client keeps the invariant: only an event could open a gap. -/
theorem Tracked.move (h : Tracked generation last issued client)
    (hlen : issued.length = last.toNat) (hmove : ClientMove generation last client after) :
    Tracked generation last issued after := by
  have hkeep : ∀ offer ∈ client.offers, offer.subscribed = true → after.subscribed = true :=
    fun offer hoffer hsub => hmove.subscribed (h.subscribed offer hoffer hsub)
  rcases hmove.offers with hoffers | ⟨offer, hoffers, hfair⟩
  · refine ⟨hmove.wellformed, by rw [hoffers]; exact h.honest, by rw [hoffers]; exact hkeep, ?_⟩
    intro before baseline rest requestId g n snapshot hsplit hstamp haccepted hsub
    rw [hoffers] at hsplit
    obtain ⟨hg, hn, hfollows⟩ :=
      h.follows before baseline rest requestId g n snapshot hsplit hstamp haccepted hsub
    have hclient := h.subscribed baseline (by simp [hsplit]) hsub
    exact ⟨hg, hn, hfollows.of_receives (hmove.receives hclient)⟩
  · refine ⟨hmove.wellformed, ?_, ?_, ?_⟩
    · intro other hother
      rw [hoffers, List.mem_append, List.mem_singleton] at hother
      rcases hother with hother | rfl
      · exact h.honest other hother
      · exact hfair.honest
    · intro other hother hsub
      rw [hoffers, List.mem_append, List.mem_singleton] at hother
      rcases hother with hother | rfl
      · exact hkeep other hother hsub
      · exact hfair.subscribed hsub
    · intro before baseline rest requestId g n snapshot hsplit hstamp haccepted hsub
      rw [hoffers] at hsplit
      rcases concat_eq_append_cons hsplit with ⟨rfl, rfl⟩ | ⟨earlier, rfl, hold⟩
      · -- the offer is the snapshot itself
        obtain ⟨rfl, rfl⟩ := hfair.watermark requestId g n snapshot hstamp
        exact ⟨rfl, hfair.lastSequence, Follows.start hlen after⟩
      · obtain ⟨hg, hn, hfollows⟩ :=
          h.follows before baseline earlier requestId g n snapshot hold hstamp haccepted hsub
        have hclient := h.subscribed baseline (by simp [hold]) hsub
        have hlater := hfollows.concat_other hfair.event?_none
        exact ⟨hg, hn, hlater.of_receives (hmove.receives hclient)⟩

/-! ### One event -/

/-- The issued events with one more behind the baseline. -/
theorem map_drop_concat {n : Nat} (hn : n ≤ issued.length) (new : Issued) :
    ((issued ++ [new]).drop n).map Issued.event =
      (issued.drop n).map Issued.event ++ [new.event] := by
  rw [List.drop_append_of_le_length hn, List.map_append]
  rfl

/-- A client that is skipped has been offered a part of the events. -/
theorem Follows.skip {n : UInt64} {offers : List Offer} {next : UInt64}
    (h : Follows generation last issued client n offers) (new : Issued)
    (hskip : client.receivesEvents = false) :
    Follows generation next (issued ++ [new]) client n offers := by
  refine ⟨h.answers, ?_, ?_, fun hrec => absurd hrec (by simp [hskip])⟩
  · rw [List.length_append]
    exact Nat.le_add_right_of_le h.bounded
  · rw [map_drop_concat h.bounded]
    exact h.offered.trans (List.prefix_append _ _)

/-- A client that is offered the next event: its tracker accepts it, or the client is closed. -/
theorem Follows.event {n next : UInt64} {offers : List Offer} {offer : Offer} {new : Issued}
    (h : Follows generation last issued client n offers) (hgeneration : generation ≠ 0)
    (hrec : client.receivesEvents = true) (hnext : next.toNat = last.toNat + 1)
    (hnew : new.event.generation = generation ∧ new.event.seq = next)
    (hstamp : offer.stamp = .event new.event) (hlast : offer.lastSequence = next)
    (hrefused : offer.accepted = false → after.receivesEvents = false) :
    Follows generation next (issued ++ [new]) after n (offers ++ [offer]) := by
  obtain ⟨htracker, hall⟩ := h.current hrec
  have hevent : offer.event? = some new.event := by simp [Offer.event?, hstamp]
  have hoffered : offeredEvents (offers ++ [offer]) =
      ((issued ++ [new]).drop n.toNat).map Issued.event := by
    rw [offeredEvents_concat, hevent, map_drop_concat h.bounded, hall]
    rfl
  have hbounded : n.toNat ≤ (issued ++ [new]).length := by
    rw [List.length_append]
    exact Nat.le_add_right_of_le h.bounded
  have hbegins : offeredEvents (offers ++ [offer]) <+:
      ((issued ++ [new]).drop n.toNat).map Issued.event := hoffered ▸ List.prefix_rfl
  cases haccepted : offer.accepted with
  | false =>
    have henqueued : enqueuedEvents (offers ++ [offer]) = enqueuedEvents offers := by
      rw [enqueuedEvents_concat]
      simp [Offer.enqueued?, haccepted]
    refine ⟨by rw [henqueued]; exact h.answers, hbounded, hbegins, ?_⟩
    intro hstill
    exact absurd hstill (by simp [hrefused haccepted])
  | true =>
    have henqueued : enqueuedEvents (offers ++ [offer]) =
        enqueuedEvents offers ++ [(new.event, next)] := by
      rw [enqueuedEvents_concat]
      simp [Offer.enqueued?, haccepted, hevent, hlast]
    have hanswer := RebaseTracker.observeEvent_next hgeneration hnext
    have hobserved := RebaseTracker.observeAll_concat (RebaseTracker.upTo generation n)
      ((enqueuedEvents offers).map Prod.fst) new.event
    rw [htracker, hnew.1, hnew.2, hanswer] at hobserved
    have hfed : (enqueuedEvents (offers ++ [offer])).map Prod.fst =
        (enqueuedEvents offers).map Prod.fst ++ [new.event] := by
      rw [henqueued, List.map_append]
      rfl
    refine ⟨?_, hbounded, hbegins, fun _ => ⟨?_, hoffered⟩⟩
    · rw [hfed, hobserved, henqueued, List.map_append]
      simp only [h.answers]
      rfl
    · rw [hfed, hobserved]

/-- An event keeps the invariant of every client, recipient or not. -/
theorem Tracked.offerEvent (h : Tracked generation last issued client)
    (hgeneration : generation ≠ 0) {next : UInt64} (hnext : next.toNat = last.toNat + 1)
    {new : Issued} (hnew : new.event.generation = generation ∧ new.event.seq = next) :
    Tracked generation next (issued ++ [new]) (Server.offerEvent new next client) := by
  unfold Server.offerEvent
  split
  next hrec =>
    have hoffers := client.offers_enqueueFrame new.now next (.event new.event) new.event.frame
    have hsub := client.subscribed_enqueueFrame new.now next (.event new.event) new.event.frame
    have hclosed := client.closed_enqueueFrame new.now next (.event new.event) new.event.frame
    have hnow : client.subscribed = true := ((client.receivesEvents_iff).mp hrec).2.2.2
    refine ⟨h.wellformed.enqueueFrame _ _ _ _, ?_, ?_, ?_⟩
    · intro other hother
      rw [hoffers, List.mem_append, List.mem_singleton] at hother
      rcases hother with hother | rfl
      · exact h.honest other hother
      · exact (rfl : new.event.frame = new.event.frame)
    · intro _ _ _
      rw [hsub]
      exact hnow
    · intro before baseline rest requestId g n snapshot hsplit hbaseline haccepted hbsub
      rw [hoffers] at hsplit
      rcases concat_eq_append_cons hsplit with ⟨rfl, rfl⟩ | ⟨earlier, rfl, hold⟩
      · exact absurd hbaseline (by simp)
      · obtain ⟨hg, hn, hfollows⟩ :=
          h.follows before baseline earlier requestId g n snapshot hold hbaseline haccepted hbsub
        refine ⟨hg, hn, hfollows.event hgeneration hrec hnext hnew rfl rfl ?_⟩
        intro hrefused
        dsimp only at hrefused
        unfold ClientState.receivesEvents
        rw [hclosed, hrefused]
        simp
  next hskip =>
    refine ⟨h.wellformed, h.honest, h.subscribed, ?_⟩
    intro before baseline rest requestId g n snapshot hsplit hbaseline haccepted hbsub
    obtain ⟨hg, hn, hfollows⟩ :=
      h.follows before baseline rest requestId g n snapshot hsplit hbaseline haccepted hbsub
    exact ⟨hg, hn, hfollows.skip new (by simpa using hskip)⟩

/-! ### The invariant of the server -/

/-- Every event has been counted, and every client is tracked. -/
structure Consistent (s : Server) : Prop where
  generation_ne_zero : s.generation ≠ 0
  sequencer : s.sequencer.generation = s.generation
  numbered : s.issued.length = s.sequencer.lastSequence.toNat
  clients : ∀ id client, s.client? id = some client →
    Tracked s.generation s.sequencer.lastSequence s.issued client

theorem Consistent.mapClients {s : Server} (h : Consistent s)
    {f : ClientId → ClientState → ClientState}
    (hf : ∀ id client, s.client? id = some client →
      Tracked s.generation s.sequencer.lastSequence s.issued client →
      Tracked s.generation s.sequencer.lastSequence s.issued (f id client)) :
    Consistent (s.mapClients f) := by
  refine ⟨h.generation_ne_zero, h.sequencer, h.numbered, ?_⟩
  intro id client hclient
  rw [Server.client?_mapClients] at hclient
  obtain ⟨old, hold, rfl⟩ := Option.map_eq_some_iff.mp hclient
  exact hf id old hold (h.clients id old hold)

theorem Consistent.update {s : Server} (h : Consistent s) {id : ClientId}
    {f : ClientState → ClientState}
    (hf : ∀ client, s.client? id = some client → client.Wellformed →
      ClientMove s.generation s.sequencer.lastSequence client (f client)) :
    Consistent (s.update id f) := by
  refine h.mapClients ?_
  intro other client hclient htracked
  split
  next heq =>
    subst heq
    exact htracked.move h.numbered (hf client hclient htracked.wellformed)
  · exact htracked

/-- `t` is `s` after one more event, offered to every client. -/
structure Server.Issues (s t : Server) (new : Issued) : Prop where
  room : s.sequencer.nextSequence ≠ 0
  generation : t.generation = s.generation
  sequencer : t.sequencer = s.sequencer.advance
  issued : t.issued = s.issued ++ [new]
  newGeneration : new.event.generation = s.sequencer.generation
  newSeq : new.event.seq = s.sequencer.nextSequence
  clients : ∀ id, t.client? id = (s.client? id).map (Server.offerEvent new new.event.seq)

/-- An event that cannot be encoded changes nothing. -/
theorem Server.broadcastEvent_cases (s : Server) (now : Nat) (eventName payloadJson : Bytes) :
    (s.broadcastEvent now eventName payloadJson).2 = s ∨
      s.Issues (s.broadcastEvent now eventName payloadJson).2
        ⟨s.sequencer.record eventName payloadJson, now⟩ := by
  unfold Server.broadcastEvent
  simp only
  split
  · exact .inl rfl
  next hbuilt =>
    obtain ⟨hnext, hencoded⟩ := EventSequencer.encodeEvent_of_ne_nil hbuilt
    rw [hencoded]
    simp only [EventSequencer.lastSequence_advance]
    refine .inr ⟨hnext, rfl, rfl, rfl, rfl, rfl, fun id => ?_⟩
    exact Server.client?_mapClients s (fun _ => Server.offerEvent
      ⟨s.sequencer.record eventName payloadJson, now⟩ s.sequencer.nextSequence) id

theorem Consistent.issues {s t : Server} {new : Issued} (h : Consistent s) (ht : s.Issues t new) :
    Consistent t := by
  have hlast := EventSequencer.toNat_nextSequence ht.room
  have hseq : t.sequencer.lastSequence = new.event.seq := by
    rw [ht.sequencer, EventSequencer.lastSequence_advance, ht.newSeq]
  refine ⟨ht.generation ▸ h.generation_ne_zero, ?_, ?_, ?_⟩
  · rw [ht.sequencer, EventSequencer.advance_generation, h.sequencer, ht.generation]
  · rw [hseq, ht.issued, List.length_append, h.numbered, ht.newSeq, hlast]
    rfl
  · intro id client hclient
    rw [ht.clients] at hclient
    obtain ⟨old, hold, rfl⟩ := Option.map_eq_some_iff.mp hclient
    rw [hseq, ht.generation, ht.issued]
    refine (h.clients id old hold).offerEvent h.generation_ne_zero ?_ ⟨?_, rfl⟩
    · rw [ht.newSeq, hlast]
    · rw [ht.newGeneration, h.sequencer]

theorem Consistent.broadcastEvent {s : Server} (h : Consistent s) (now : Nat)
    (eventName payloadJson : Bytes) :
    Consistent (s.broadcastEvent now eventName payloadJson).2 := by
  rcases s.broadcastEvent_cases now eventName payloadJson with hsame | hissues
  · rw [hsame]
    exact h
  · exact h.issues hissues

/-- **Moves keep the server consistent.** -/
theorem Consistent.moves {s t : Server} {id : ClientId} (h : Consistent s)
    (hmoves : Moves id s t) : Consistent t := by
  induction hmoves with
  | refl => exact h
  | client _ f hf ih => exact ih.update hf
  | session _ n ih => exact ⟨ih.generation_ne_zero, ih.sequencer, ih.numbered, ih.clients⟩
  | event _ now eventName payloadJson ih => exact ih.broadcastEvent now eventName payloadJson

/-! ### Turns -/

theorem Server.makeServerGeneration_ne_zero (now pid : UInt64) :
    makeServerGeneration now pid ≠ 0 := by
  unfold makeServerGeneration
  simp only
  split
  · decide
  next h => exact h

theorem Consistent.of_started {s : Server} (h : Started s) : Consistent s := by
  obtain ⟨now, pid, rfl⟩ := h
  have hne := Server.makeServerGeneration_ne_zero now pid
  refine ⟨hne, if_neg hne, ?_, ?_⟩
  · simp [Server.start, EventSequencer.create, EventSequencer.lastSequence]
  · intro id client hclient
    cases hclient

theorem Server.client?_acceptClient {s : Server} {now : Nat} {id : ClientId} {client : ClientState}
    (h : (s.acceptClient now).client? id = some client) :
    s.client? id = some client ∨ client = .create now := by
  unfold acceptClient at h
  split at h
  · exact .inl h
  · simp only [client?, List.lookup_append] at h ⊢
    cases hold : s.clients.lookup id with
    | some old =>
      rw [hold] at h
      exact .inl h
    | none =>
      rw [hold, Option.none_or, List.lookup_cons] at h
      split at h
      · exact .inr (Option.some.inj h).symm
      · cases h

/-- A new client has been offered nothing. -/
theorem Tracked.create (now : Nat) : Tracked generation last issued (.create now) := by
  refine ⟨⟨by simp [ClientState.create], by simp [ClientState.create]⟩, ?_, ?_, ?_⟩
  · intro offer hoffer
    cases hoffer
  · intro offer hoffer
    cases hoffer
  · intro before baseline rest requestId g n snapshot hsplit
    exact absurd hsplit.symm (by simp [ClientState.offers, ClientState.create])

theorem Server.lookup_filter {clients : List (ClientId × ClientState)}
    (hdistinct : (clients.map Prod.fst).Nodup) (p : ClientState → Bool) (id : ClientId) :
    (clients.filter fun entry => p entry.2).lookup id = (clients.lookup id).filter p := by
  induction clients with
  | nil => rfl
  | cons entry clients ih =>
    rw [List.map_cons, List.nodup_cons] at hdistinct
    have hrest := ih hdistinct.2
    rw [List.lookup_cons]
    cases hid : id == entry.1 with
    | true =>
      -- the identity does not occur again behind the entry
      have hid' := beq_iff_eq.mp hid
      have hnone : clients.lookup id = none := by
        rw [List.lookup_eq_none_iff]
        intro other hother
        rw [bne_iff_ne, hid']
        intro heq
        exact hdistinct.1 (heq ▸ List.mem_map_of_mem hother)
      rw [List.filter_cons]
      cases hp : p entry.2 with
      | true =>
        rw [if_pos rfl, List.lookup_cons, hid]
        simp [Option.filter, hp]
      | false =>
        rw [if_neg Bool.false_ne_true, hrest, hnone]
        simp [Option.filter, hp]
    | false =>
      rw [List.filter_cons]
      split
      · rw [List.lookup_cons, hid]
        exact hrest
      · exact hrest

theorem Server.client?_cleanupClients (s : Server) (id : ClientId) :
    s.cleanupClients.client? id = (s.client? id).filter fun client => !client.closed :=
  lookup_filter s.distinct (fun client => !client.closed) id

/-- **One turn.** Every turn of the reactor keeps the server consistent. -/
theorem Consistent.perform {s : Server} (h : Consistent s) (turn : Turn) :
    Consistent (turn.perform s) := by
  cases turn with
  | observe now changes =>
    simp only [Turn.perform, Server.observeState]
    split
    · exact h.broadcastEvent _ _ _
    · exact h
  | service id replies flush => exact h.moves (Moves.serviceClient replies flush)
  | polled id replies => exact h.moves (Moves.servePolled replies)
  | accept now =>
    have hkeep : (s.acceptClient now).generation = s.generation ∧
        (s.acceptClient now).sequencer = s.sequencer ∧
        (s.acceptClient now).issued = s.issued := by
      unfold Server.acceptClient
      split <;> exact ⟨rfl, rfl, rfl⟩
    obtain ⟨hg, hs, hi⟩ := hkeep
    refine ⟨hg ▸ h.generation_ne_zero, ?_, ?_, ?_⟩
    · simp only [Turn.perform]
      rw [hg, hs]
      exact h.sequencer
    · simp only [Turn.perform]
      rw [hs, hi]
      exact h.numbered
    · intro id client hclient
      simp only [Turn.perform] at hclient ⊢
      rw [hg, hs, hi]
      rcases Server.client?_acceptClient hclient with hold | rfl
      · exact h.clients id client hold
      · exact Tracked.create now
  | deadlines now =>
    simp only [Turn.perform, Server.applyDeadlines]
    refine h.mapClients ?_
    intro id client _ htracked
    have hquiet := Quiet.of_still (Still.applyDeadline now client)
    exact htracked.move h.numbered (.of_quiet htracked.wellformed hquiet)
  | cleanup =>
    refine ⟨h.generation_ne_zero, h.sequencer, h.numbered, ?_⟩
    intro id client hclient
    simp only [Turn.perform] at hclient
    rw [Server.client?_cleanupClients, Option.filter_eq_some_iff] at hclient
    exact h.clients id client hclient.1
  | shutdown =>
    refine ⟨h.generation_ne_zero, h.sequencer, h.numbered, ?_⟩
    intro id client hclient
    cases hclient

theorem Consistent.of_reaches {history : List Turn} {s : Server}
    (h : Reaches Started reactorStep history s) : Consistent s := by
  refine Reaches.invariant (I := fun _ s => Consistent s) (fun s hs => .of_started hs) ?_ h
  intro history turn s t hs ht
  obtain rfl := Option.some.inj ht
  exact hs.perform turn

/-! ### Other clients -/

/-- The events of a turn, offered to one client in order. -/
def offerAll (new : List Issued) (client : ClientState) : ClientState :=
  new.foldl (fun client issued => Server.offerEvent issued issued.event.seq client) client

/-- What the moves of one client do to the others: they are offered the events. -/
theorem Moves.others {s t : Server} {id other : ClientId} (h : Moves id s t) (hne : other ≠ id) :
    ∃ new, t.issued = s.issued ++ new ∧ t.client? other = (s.client? other).map (offerAll new) := by
  induction h with
  | refl => exact ⟨[], (List.append_nil _).symm, by cases s.client? other <;> rfl⟩
  | client _ f _ ih =>
    obtain ⟨new, hissued, hclient⟩ := ih
    exact ⟨new, hissued, by rw [Server.client?_update_ne _ f hne, hclient]⟩
  | session _ n ih => exact ih
  | event _ now eventName payloadJson ih =>
    obtain ⟨new, hissued, hclient⟩ := ih
    rcases Server.broadcastEvent_cases _ now eventName payloadJson with hsame | hissues
    · rw [hsame]
      exact ⟨new, hissued, hclient⟩
    · refine ⟨new ++ [_], by rw [hissues.issued, hissued, List.append_assoc], ?_⟩
      rw [hissues.clients, hclient, Option.map_map]
      unfold offerAll
      simp only [List.foldl_append, List.foldl_cons, List.foldl_nil]
      rfl

/-- The client that a turn is for. -/
def Turn.addressee : Turn → Option ClientId
  | service id _ _ => some id
  | polled id _ => some id
  | _ => none

/-- What a turn does by itself to a client that it is not for: a deadline may close the client, a
closed client is removed. -/
def Turn.bystander : Turn → ClientState → Option ClientState
  | deadlines now, client => some (client.applyDeadline now)
  | cleanup, client => if client.closed then none else some client
  | shutdown, _ => none
  | _, client => some client

/-- A turn for somebody else, or for nobody, has on a client the effect that the client's own record
and the events of the turn determine. -/
theorem Turn.perform_bystander {s : Server} {turn : Turn} {id : ClientId} {client : ClientState}
    (hclient : s.client? id = some client) (hother : turn.addressee ≠ some id) :
    ∃ new, (turn.perform s).issued = s.issued ++ new ∧
      (turn.perform s).client? id = turn.bystander (offerAll new client) := by
  have hmoves : ∀ {t : Server} {other : ClientId}, Moves other s t → id ≠ other →
      ∃ new, t.issued = s.issued ++ new ∧ t.client? id = some (offerAll new client) := by
    intro t other h hne
    obtain ⟨new, hissued, hafter⟩ := h.others hne
    exact ⟨new, hissued, by rw [hafter, hclient]; rfl⟩
  cases turn with
  | observe now changes =>
    simp only [Turn.perform, Server.observeState]
    split
    · exact hmoves (.event .refl now _ _) (Nat.ne_of_lt (Nat.lt_succ_self id))
    · exact ⟨[], (List.append_nil _).symm, hclient⟩
  | service other replies flush =>
    exact hmoves (Moves.serviceClient replies flush) fun heq => hother (by rw [heq]; rfl)
  | polled other replies =>
    exact hmoves (Moves.servePolled replies) fun heq => hother (by rw [heq]; rfl)
  | accept now =>
    simp only [Turn.perform, Server.acceptClient]
    split
    · exact ⟨[], (List.append_nil _).symm, hclient⟩
    · refine ⟨[], (List.append_nil _).symm, ?_⟩
      unfold Server.client? at hclient ⊢
      rw [List.lookup_append, hclient]
      rfl
  | deadlines now =>
    refine ⟨[], (List.append_nil _).symm, ?_⟩
    simp only [Turn.perform, Server.applyDeadlines]
    rw [Server.client?_mapClients, hclient]
    rfl
  | cleanup =>
    refine ⟨[], (List.append_nil _).symm, ?_⟩
    simp only [Turn.perform]
    rw [Server.client?_cleanupClients, hclient]
    cases hclosed : client.closed <;> simp [Turn.bystander, offerAll, Option.filter, hclosed]
  | shutdown => exact ⟨[], (List.append_nil _).symm, rfl⟩

/-! ### The stream of a rebased client -/

/-- **The event stream behind a snapshot has no gap.** In every run of the reactor, take a snapshot
response that entered the queue of a client while it was subscribed, with generation `g` and number
`n`.  A tracker rebased with them accepts every event frame that entered the queue since, in order,
and after each of them its last number is the server's at the moment of enqueueing.  As long as the
client receives events, the ones it was offered are all those that the server issued since the
snapshot.  And a turn for another client, or for none, whatever it does to the others, does to this
client only what its own record and the events of the turn determine. -/
theorem rebased_client_follows_server {history : List Turn} {s : Server}
    (h : Reaches Started reactorStep history s) {id : ClientId} {client : ClientState}
    (hclient : s.client? id = some client) {before after : List Offer} {baseline : Offer}
    {requestId g n : UInt64} {snapshot : Bytes}
    (hoffers : client.offers = before ++ baseline :: after)
    (hstamp : baseline.stamp = .snapshot requestId g n snapshot)
    (haccepted : baseline.accepted = true) (hsubscribed : baseline.subscribed = true) :
    (∀ offer ∈ client.offers, offer.Honest) ∧
    ((({} : RebaseTracker).rebase g n).2.observeAll ((enqueuedEvents after).map Prod.fst)).1 =
      (enqueuedEvents after).map (fun entry => (.accept, entry.2)) ∧
    offeredEvents after <+: (s.issued.drop n.toNat).map Issued.event ∧
    (client.receivesEvents = true →
      offeredEvents after = (s.issued.drop n.toNat).map Issued.event) ∧
    ∀ turn : Turn, turn.addressee ≠ some id →
      (turn.perform s).client? id =
        turn.bystander (offerAll ((turn.perform s).issued.drop s.issued.length) client) := by
  have hconsistent := Consistent.of_reaches h
  have htracked := hconsistent.clients id client hclient
  obtain ⟨rfl, -, hfollows⟩ :=
    htracked.follows before baseline after requestId g n snapshot hoffers hstamp haccepted
      hsubscribed
  refine ⟨htracked.honest, ?_, hfollows.offered, fun hrec => (hfollows.current hrec).2, ?_⟩
  · rw [RebaseTracker.rebase_eq_upTo _ n hconsistent.generation_ne_zero]
    exact hfollows.answers
  · intro turn hother
    obtain ⟨new, hissued, hafter⟩ := Turn.perform_bystander hclient hother
    rw [hissued, List.drop_left]
    exact hafter

/-- A client says HELLO, subscribes and asks for a snapshot, all in one segment. -/
def greeting : Bytes :=
  encodeJson .hello (text "\x7b\"minVersion\":1,\"maxVersion\":1\x7d") ++
    encodeJson .request (text "\x7b\"requestId\":1,\"method\":\"network.events.subscribe\"\x7d") ++
    encodeJson .request (text "\x7b\"requestId\":2,\"method\":\"network.snapshot\"\x7d")

/-- The segment arrives, and the client reads what it is sent. -/
def greetingReply : Server.ReceiveReply :=
  { now := 1
    data := some greeting
    first := fun _ =>
      { snapshotPayload := text "\x7b\x7d"
        flush := { sends := [.wrote 1 70000, .wrote 1 70000], now := 1 } } }

/-- Two clients; the first is greeted and rebased, then the Ethernet state changes. -/
def rebaseRun : List Turn :=
  [.accept 0, .accept 0, .polled 0 { readable := true, receive := [greetingReply] },
    .observe 2 { eth := true }]

def rebasedServer : Server := rebaseRun.foldl (fun s turn => turn.perform s) (Server.start 7 0)

def rebasedClient : ClientState := (rebasedServer.client? 0).getD (.create 0)

def rebasedBaseline : Offer := rebasedClient.offers.getD 3 ⟨[], .line, false, 0, false⟩

theorem rebased_client_follows_server_rebaseRun :
    rebasedBaseline.stamp = .snapshot 2 7 1 (text "\x7b\x7d") ∧
      (enqueuedEvents (rebasedClient.offers.drop 4)).map Prod.snd = [2] ∧
      ((({} : RebaseTracker).rebase 7 1).2.observeAll
          ((enqueuedEvents (rebasedClient.offers.drop 4)).map Prod.fst)).1 =
        (enqueuedEvents (rebasedClient.offers.drop 4)).map (fun entry => (.accept, entry.2)) := by
  have hreach : Reaches Started reactorStep rebaseRun.reverse rebasedServer :=
    .of_run ⟨7, 0, rfl⟩ (run_total Turn.perform rebaseRun (Server.start 7 0))
  -- one evaluation of the run for everything that is read off it
  have hread : (rebasedServer.client? 0 = some rebasedClient ∧ rebasedClient.offers =
        rebasedClient.offers.take 3 ++ rebasedBaseline :: rebasedClient.offers.drop 4) ∧
      rebasedBaseline.stamp = .snapshot 2 7 1 (text "\x7b\x7d") ∧
      rebasedBaseline.accepted = true ∧ rebasedBaseline.subscribed = true ∧
      (enqueuedEvents (rebasedClient.offers.drop 4)).map Prod.snd = [2] := by
    decide +kernel
  obtain ⟨⟨hclient, hoffers⟩, hstamp, haccepted, hsubscribed, hevents⟩ := hread
  obtain ⟨-, hanswers, -⟩ :=
    rebased_client_follows_server hreach hclient hoffers hstamp haccepted hsubscribed
  exact ⟨hstamp, hevents, hanswers⟩

end NetworkService.Ipc
