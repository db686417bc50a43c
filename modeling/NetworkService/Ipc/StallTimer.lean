import Mathlib.Data.List.Nodup
import Mathlib.Logic.Relation
import NetworkService.Ipc.Reactor
import NetworkService.Library.Execution

/-!
# The stall timer of a client

While output is pending a timer runs, and it is measured from the last byte that the socket took,
or from the frame that filled the empty queue.  The timer is set in one lambda and cleared in
another, on five branches, so it is followed here through the single operations that a turn of the
reactor consists of, against the log of what entered and left the queue and when.
-/

namespace NetworkService.Ipc

open Relation Execution

/-! ### What happens to a queue -/

/-- The queue that a log leads to; the newest change comes first. -/
def replayed : List QueueChange → OutboundQueue
  | [] => {}
  | .enqueued _ frame :: older => ((replayed older).enqueue frame).2
  | .consumed _ bytes :: older => ((replayed older).consume bytes).2

/-- The time of the last consumed byte or, if none since the queue was last empty, of the frame that
made it non-empty. -/
def lastProgress : List QueueChange → Option Nat
  | [] => none
  | .consumed time bytes :: older =>
    if (replayed (.consumed time bytes :: older)).isEmpty then none else some time
  | .enqueued time _ :: older => if (replayed older).isEmpty then some time else lastProgress older

/-- One operation of the reactor on the record of a client: a frame is queued, bytes are sent, the
timer is armed or disarmed, or something else is done. -/
inductive TimerStep : ClientState → ClientState → Prop
  | accepted {client : ClientState} (now : Nat) (lastSequence : UInt64) (stamp : Stamp)
      (frame : Bytes) (haccepted : (client.enqueueFrame now lastSequence stamp frame).1 = true) :
      TimerStep client (client.enqueueFrame now lastSequence stamp frame).2
  | sent {client : ClientState} (time bytes : Nat) {outbound : OutboundQueue}
      (htaken : client.outbound.consume bytes = (true, outbound)) :
      TimerStep client { client with
        outbound := outbound
        writeProgressAt := time
        writeTimerActive := !outbound.isEmpty
        queueLog := .consumed time bytes :: client.queueLog }
  | arm {client : ClientState} (now : Nat) (hpending : client.outbound.isEmpty = false) :
      TimerStep client (client.armTimer now)
  | disarm {client : ClientState} (hdrained : client.outbound.isEmpty = true) :
      TimerStep client { client with writeTimerActive := false }
  | other {before after : ClientState} (houtbound : after.outbound = before.outbound)
      (hlog : after.queueLog = before.queueLog)
      (hactive : after.writeTimerActive = before.writeTimerActive)
      (hprogress : after.writeProgressAt = before.writeProgressAt) : TimerStep before after

/-- Operations on the record of a client, one after the other. -/
abbrev TimerRun : ClientState → ClientState → Prop := ReflTransGen TimerStep

/-- The log accounts for the whole queue, and while output is pending the timer runs and counts from
the last progress in the log. -/
structure Timed (client : ClientState) : Prop where
  replays : replayed client.queueLog = client.outbound
  right : client.outbound.isEmpty = false →
    client.writeTimerActive = true ∧ lastProgress client.queueLog = some client.writeProgressAt

theorem timed_create (now : Nat) : Timed (.create now) := by
  refine ⟨rfl, ?_⟩
  intro hpending
  cases hpending

/-- **Every operation keeps the timer right.** -/
theorem Timed.step {client after : ClientState} (h : Timed client)
    (hstep : TimerStep client after) : Timed after := by
  obtain ⟨hreplays, hright⟩ := h
  cases hstep with
  | accepted now lastSequence stamp frame haccepted =>
    unfold ClientState.enqueueFrame at haccepted ⊢
    simp only at haccepted ⊢
    split
    · refine ⟨?_, ?_⟩
      · show ((replayed client.queueLog).enqueue frame).2 = _
        rw [hreplays]
      · intro _
        simp only [lastProgress, hreplays]
        cases hempty : client.outbound.isEmpty with
        | true => simp
        | false =>
          obtain ⟨hactive, hprogress⟩ := hright hempty
          simp [hactive, hprogress]
    · next hrefused => simp [hrefused] at haccepted
  | @sent time bytes outbound htaken =>
    have hreplayed : replayed (.consumed time bytes :: client.queueLog) = outbound := by
      show ((replayed client.queueLog).consume bytes).2 = outbound
      rw [hreplays, htaken]
    refine ⟨hreplayed, ?_⟩
    intro hpending
    simp only at hpending
    simp [lastProgress, hreplayed, hpending]
  | arm now hbefore =>
    obtain ⟨hactive, hprogress⟩ := hright hbefore
    unfold ClientState.armTimer
    rw [if_pos hactive]
    exact ⟨hreplays, hright⟩
  | disarm hdrained =>
    refine ⟨hreplays, ?_⟩
    intro hpending
    rw [show client.outbound.isEmpty = false from hpending] at hdrained
    cases hdrained
  | other houtbound hlog hactive hprogress =>
    refine ⟨by rw [hlog, houtbound, hreplays], ?_⟩
    rw [houtbound, hlog, hactive, hprogress]
    exact hright

/-! ### The functions on a record -/

namespace TimerRun

variable {client : ClientState}

theorem close (client : ClientState) : TimerRun client client.close :=
  .single (.other rfl rfl rfl rfl)

theorem enqueueFrame (client : ClientState) (now : Nat) (lastSequence : UInt64) (stamp : Stamp)
    (frame : Bytes) : TimerRun client (client.enqueueFrame now lastSequence stamp frame).2 := by
  cases haccepted : (client.enqueueFrame now lastSequence stamp frame).1 with
  | true => exact .single (.accepted now lastSequence stamp frame haccepted)
  | false =>
    unfold ClientState.enqueueFrame at haccepted ⊢
    simp only at haccepted ⊢
    split
    · next hresult => simp [hresult] at haccepted
    · exact .single (.other rfl rfl rfl rfl)

theorem endFlush (now : Nat) (client : ClientState) : TimerRun client (client.endFlush now) := by
  unfold ClientState.endFlush
  split
  · next hdrained => exact .tail (.single (.disarm hdrained)) (.other rfl rfl rfl rfl)
  · next hpending => exact .single (.arm now (by simpa using hpending))

theorem flushLoop (now : Nat) (sends : List SendReply) (budget : Nat) (client : ClientState) :
    TimerRun client (client.flushLoop now sends budget) := by
  induction sends generalizing budget client with
  | nil =>
    unfold ClientState.flushLoop
    split
    · exact endFlush now client
    · next hgo => exact .single (.arm now (by simpa using fun h => hgo (.inl h)))
  | cons reply sends ih =>
    unfold ClientState.flushLoop
    split
    · exact endFlush now client
    next hgo =>
    have hpending : client.outbound.isEmpty = false := by simpa using fun h => hgo (.inl h)
    cases reply with
    | wouldBlock time => exact .single (.arm time hpending)
    | failed => exact close client
    | wrote time bytes =>
      simp only
      split
      · exact close client
      cases hconsume : client.outbound.consume
        (min bytes (min client.outbound.frontSize budget)) with
      | mk taken outbound =>
        cases taken with
        | false => exact close client
        | true => exact .head (.sent time _ hconsume) (ih _ _)

theorem flushClient (replies : FlushReplies) (client : ClientState) :
    TimerRun client (client.flushClient replies) := by
  unfold ClientState.flushClient
  split
  · cases hempty : client.outbound.isEmpty with
    | true =>
      refine .tail (.single (.disarm hempty)) (.other rfl rfl ?_ rfl)
      simp
    | false => exact .single (.other rfl rfl (by simp) rfl)
  · exact flushLoop _ _ _ client

theorem flushPending (replies : FlushReplies) (client : ClientState) :
    TimerRun client (client.flushPending replies) := by
  unfold ClientState.flushPending
  split
  · exact .refl
  · exact flushClient replies client

theorem applyDeadline (now : Nat) (client : ClientState) :
    TimerRun client (client.applyDeadline now) := by
  unfold ClientState.applyDeadline
  split
  · exact .refl
  split
  · exact close client
  split
  · exact close client
  · exact .refl

theorem offerEvent (issued : Issued) (lastSequence : UInt64) (client : ClientState) :
    TimerRun client (Server.offerEvent issued lastSequence client) := by
  unfold Server.offerEvent
  split
  · exact enqueueFrame client _ _ _ _
  · exact .refl

end TimerRun

/-! ### The server between two operations -/

/-- The states of the server between two of its operations. -/
inductive Internally : Server → Prop
  | started {s : Server} (h : Started s) : Internally s
  | client {s : Server} {id : ClientId} {client after : ClientState} (h : Internally s)
      (hclient : (id, client) ∈ s.clients) (hstep : TimerStep client after) :
      Internally (s.update id fun _ => after)
  | server {s t : Server} (h : Internally s) (hclients : t.clients = s.clients) : Internally t
  | accept {s : Server} (h : Internally s) (now : Nat) : Internally (s.acceptClient now)
  | drop {s t : Server} (h : Internally s) (hclients : t.clients.Sublist s.clients) : Internally t

/-- A client is known by its identity. -/
theorem Server.client_unique {s : Server} {id : ClientId} {client other : ClientState}
    (h : (id, client) ∈ s.clients) (h' : (id, other) ∈ s.clients) : other = client := by
  have hsame := List.inj_on_of_nodup_map s.distinct h' h rfl
  exact congrArg Prod.snd hsame

theorem Internally.timed {s : Server} (h : Internally s) {id : ClientId} {client : ClientState}
    (hclient : (id, client) ∈ s.clients) : Timed client := by
  induction h generalizing id client with
  | started h =>
    obtain ⟨now, pid, rfl⟩ := h
    have hnone : (Server.start now pid).clients = [] := rfl
    rw [hnone] at hclient
    exact absurd hclient List.not_mem_nil
  | @client s worked before after _ hbefore hstep ih =>
    obtain ⟨⟨owner, found⟩, hfound, heq⟩ := List.mem_map.mp hclient
    obtain ⟨-, rfl⟩ := Prod.mk.inj heq
    by_cases hsame : owner = worked
    · simp only [hsame, if_true]
      exact (ih hbefore).step hstep
    · simp only [hsame, if_false]
      exact ih hfound
  | server _ hclients ih => exact ih (hclients ▸ hclient)
  | @accept s _ now ih =>
    unfold Server.acceptClient at hclient
    split at hclient
    · exact ih hclient
    rcases List.mem_append.mp hclient with hold | hnew
    · exact ih hold
    · obtain ⟨-, rfl⟩ := Prod.mk.inj (List.mem_singleton.mp hnew)
      exact timed_create now
  | drop _ hclients ih => exact ih (hclients.subset hclient)

/-! ### The functions of the reactor -/

/-- From `s` the reactor gets to `t` by single operations. -/
def Server.Advances (s t : Server) : Prop := Internally s → Internally t

namespace Server.Advances

variable {s t u : Server} {id : ClientId}

theorem refl : Advances s s := fun h => h

theorem trans (h : Advances s t) (h' : Advances t u) : Advances s u := fun hs => h' (h hs)

theorem server (hclients : t.clients = s.clients) : Advances s t := fun h => h.server hclients

theorem session (s : Server) (n : UInt64) : Advances s { s with nextSessionSequence := n } :=
  server rfl

theorem sequenced (s : Server) (sequencer : EventSequencer) (issued : List Issued) :
    Advances s { s with sequencer := sequencer, issued := issued } :=
  server rfl

theorem mapClients_congr {f g : ClientId → ClientState → ClientState}
    (h : ∀ id client, (id, client) ∈ s.clients → f id client = g id client) :
    s.mapClients f = s.mapClients g := by
  have hclients : (s.clients.map fun entry => (entry.1, f entry.1 entry.2)) =
      s.clients.map fun entry => (entry.1, g entry.1 entry.2) := by
    refine List.map_congr_left fun entry hentry => ?_
    rw [h entry.1 entry.2 hentry]
  unfold mapClients
  congr 1

theorem mapClients_id : (s.mapClients fun _ client => client) = s := by
  have hclients : (s.clients.map fun entry => (entry.1, entry.2)) = s.clients := List.map_id _
  unfold mapClients
  congr 1

theorem mapClients_mapClients (f g : ClientId → ClientState → ClientState) :
    (s.mapClients f).mapClients g = s.mapClients fun id client => g id (f id client) := by
  unfold mapClients
  congr 1
  exact List.map_map

/-- One record goes through several operations. -/
theorem run {client after : ClientState} (hclient : (id, client) ∈ s.clients)
    (hrun : TimerRun client after) : Advances s (s.update id fun _ => after) := by
  induction hrun with
  | refl =>
    have hsame : (s.update id fun _ => client) = s := by
      refine (mapClients_congr fun other found hfound => ?_).trans mapClients_id
      split
      · next hid => exact (client_unique hclient (hid ▸ hfound)).symm
      · rfl
    rw [hsame]
    exact refl
  | @tail middle after _ hstep ih =>
    intro hs
    have hmiddle := ih hs
    have hmember : (id, middle) ∈ (s.update id fun _ => middle).clients :=
      List.mem_map.mpr ⟨(id, client), hclient, by simp⟩
    have hagain : ((s.update id fun _ => middle).update id fun _ => after) =
        s.update id fun _ => after := by
      refine (mapClients_mapClients _ _).trans (mapClients_congr fun other found _ => ?_)
      by_cases hid : other = id <;> simp [hid]
    exact hagain ▸ hmiddle.client hmember hstep

/-- The records of all clients, one after the other. -/
theorem mapClients {f : ClientId → ClientState → ClientState}
    (hf : ∀ id client, (id, client) ∈ s.clients → TimerRun client (f id client)) :
    Advances s (s.mapClients f) := by
  -- the clients that have had their turn
  have hpart : ∀ done : List ClientId, done ⊆ s.clients.map Prod.fst →
      Advances s (s.mapClients fun id client => if id ∈ done then f id client else client) := by
    intro done
    induction done with
    | nil =>
      intro _
      have hnone : (s.mapClients fun id client => if id ∈ ([] : List ClientId) then f id client
          else client) = s :=
        (mapClients_congr fun id client _ => if_neg List.not_mem_nil).trans mapClients_id
      rw [hnone]
      exact refl
    | cons id done ih =>
      intro hsub
      obtain ⟨hid, hdone⟩ := List.cons_subset.mp hsub
      by_cases hmem : id ∈ done
      · have hsame : (fun other client => if other ∈ id :: done then f other client else client) =
            fun other client => if other ∈ done then f other client else client := by
          funext other client
          have hiff : other ∈ id :: done ↔ other ∈ done :=
            ⟨fun h => (List.mem_cons.mp h).elim (fun heq => heq ▸ hmem) fun h => h,
              List.mem_cons_of_mem id⟩
          simp only [hiff]
        rw [hsame]
        exact ih hdone
      obtain ⟨⟨owner, client⟩, hclient, howner⟩ := List.mem_map.mp hid
      obtain rfl : owner = id := howner
      refine (ih hdone).trans ?_
      have hmember : (owner, client) ∈
          (s.mapClients fun id client => if id ∈ done then f id client else client).clients :=
        List.mem_map.mpr ⟨(owner, client), hclient, by simp only [hmem, if_false]⟩
      have hnext := run hmember (hf owner client hclient)
      have hagain : ((s.mapClients fun id client => if id ∈ done then f id client
          else client).update owner fun _ => f owner client) =
            s.mapClients fun id client => if id ∈ owner :: done then f id client else client := by
        refine (mapClients_mapClients _ _).trans (mapClients_congr fun other found hfound => ?_)
        by_cases hother : other = owner
        · subst hother
          rw [client_unique hclient hfound]
          simp
        · simp [hother]
      exact hagain ▸ hnext
  have hall := hpart _ (List.Subset.refl _)
  have hsame : (s.mapClients fun id client =>
      if id ∈ s.clients.map Prod.fst then f id client else client) = s.mapClients f :=
    mapClients_congr fun id client hclient => if_pos (List.mem_map_of_mem hclient)
  exact hsame ▸ hall

theorem update {f : ClientState → ClientState} (hf : ∀ client, TimerRun client (f client)) :
    Advances s (s.update id f) := by
  refine mapClients fun other client _ => ?_
  split
  · exact hf client
  · exact .refl

/-- Nothing of the queue and its timer is touched. -/
theorem other {f : ClientState → ClientState}
    (hf : ∀ client, TimerStep client (f client)) : Advances s (s.update id f) :=
  update fun client => .single (hf client)

theorem close : Advances s (s.close id) := update TimerRun.close

theorem enqueueFrame (now : Nat) (stamp : Stamp) (frame : Bytes) :
    Advances s (s.enqueueFrame id now stamp frame).2 :=
  update fun client => .enqueueFrame client _ _ _ _

theorem broadcastEvent (now : Nat) (eventName payloadJson : Bytes) :
    Advances s (s.broadcastEvent now eventName payloadJson).2 := by
  unfold Server.broadcastEvent
  simp only
  split
  · exact refl
  · refine trans ?_ (sequenced _ _ _)
    exact mapClients fun _ client _ => TimerRun.offerEvent _ _ client

theorem observeState (now : Nat) (changes : NetworkStateChangeSet) :
    Advances s (s.observeState now changes) := by
  unfold Server.observeState
  split
  · exact broadcastEvent _ _ _
  · exact refl

theorem respond (now : Nat) (response : Bytes) : Advances s (s.respond id now response).2 := by
  unfold Server.respond
  split
  · exact refl
  · exact enqueueFrame _ _ _

theorem sendOrClose (now : Nat) (stamp : Stamp) (response : Bytes) :
    Advances s (s.sendOrClose id now stamp response).2 := by
  unfold Server.sendOrClose
  split
  · exact close
  have hqueued : Advances s (s.enqueueFrame id now stamp response).2 := enqueueFrame _ _ _
  simp only
  split
  · exact hqueued
  · exact hqueued.trans close

theorem performAction (replies : FrameReplies) (result : HandleResult) :
    Advances s (s.performAction id replies result).2 := by
  unfold Server.performAction
  split
  · exact refl
  · have hissued : Advances s _ := broadcastEvent replies.now (text "network.events.subscribed")
      [openBrace, closeBrace]
    simp only
    split
    · exact hissued
    · exact hissued.trans close
  · exact sendOrClose _ _ _
  · exact sendOrClose _ _ _

theorem finishFrame (replies : FrameReplies) (result : HandleResult) :
    Advances s (s.finishFrame id replies result).2 := by
  have hrespond : Advances s (s.respond id replies.now result.response).2 := respond _ _
  unfold Server.finishFrame
  simp only
  split
  · exact hrespond
  have haction : Advances s
      ((s.respond id replies.now result.response).2.performAction id replies result).2 :=
    hrespond.trans (performAction _ _)
  split
  · exact haction
  · refine haction.trans ?_
    dsimp only
    exact other fun client => .other rfl rfl rfl rfl

theorem processV1Frame (replies : FrameReplies) :
    Advances s (s.processV1Frame id replies).2 := by
  unfold Server.processV1Frame
  split
  · exact refl
  split
  · split
    · exact refl
    · refine trans ?_ (finishFrame replies _)
      exact other fun client => .other rfl rfl rfl rfl
  · exact refl

theorem serviceLoop (replies : Nat → FrameReplies) (turns : Nat) :
    Advances s (Server.serviceLoop id replies turns s) := by
  induction turns generalizing s with
  | zero => exact refl
  | succ turns ih =>
    unfold Server.serviceLoop
    split
    · exact refl
    split
    · exact refl
    have hframe : Advances s (s.processV1Frame id (replies turns)).2 := processV1Frame _
    simp only
    split
    · exact hframe
    · exact (hframe.trans (update (TimerRun.flushPending _))).trans ih

theorem serviceBufferedV1 (replies : Nat → FrameReplies) :
    Advances s (s.serviceBufferedV1 id replies) := by
  unfold Server.serviceBufferedV1
  split
  · exact refl
  split
  · exact refl
  · exact serviceLoop replies _

theorem completeV0IfReady (reply : ReceiveReply) :
    Advances s (s.completeV0IfReady id reply) := by
  unfold Server.completeV0IfReady
  split
  · exact refl
  split
  · exact refl
  split
  · exact refl
  have hrequested : Advances s ((s.update id fun client =>
      { client with history := client.history ++ [.requested client.v0Request] }).enqueueFrame id
        reply.now .line reply.v0Response).2 := by
    refine trans ?_ (enqueueFrame _ _ _)
    exact other fun client => .other rfl rfl rfl rfl
  simp only
  split
  · refine hrequested.trans (update fun client => ?_)
    refine ReflTransGen.head ?_ (TimerRun.flushClient reply.v0Flush _)
    exact .other rfl rfl rfl rfl
  · exact hrequested

theorem commitV1 (initial : Bytes) : Advances s (s.commitV1 id initial) := by
  unfold Server.commitV1
  refine trans ?_ (session _ _)
  exact other fun client => .other rfl rfl rfl rfl

theorem commitV0 (initial : Bytes) : Advances s (s.commitV0 id initial) :=
  other fun _ => .other rfl rfl rfl rfl

theorem commitProtocolIfPossible (reply : ReceiveReply) :
    Advances s (s.commitProtocolIfPossible id reply) := by
  unfold Server.commitProtocolIfPossible
  split
  · exact refl
  split
  · exact refl
  split
  · exact (commitV1 _).trans (serviceBufferedV1 _)
  · exact (commitV0 _).trans (completeV0IfReady reply)

theorem acceptBytes (reply : ReceiveReply) (data : Bytes) :
    Advances s (s.acceptBytes id reply data) := by
  unfold Server.acceptBytes
  split
  · exact refl
  · refine trans ?_ (commitProtocolIfPossible reply)
    exact other fun client => .other rfl rfl rfl rfl
  · refine trans ?_ (completeV0IfReady reply)
    exact other fun client => .other rfl rfl rfl rfl
  · refine trans ?_ (serviceBufferedV1 _)
    exact other fun client => .other rfl rfl rfl rfl

theorem receiveLoop (replies : List ReceiveReply) (budget : Nat) :
    Advances s (Server.receiveLoop id replies budget s) := by
  induction replies generalizing budget s with
  | nil => exact refl
  | cons reply replies ih =>
    unfold Server.receiveLoop
    split
    · exact refl
    split
    · exact refl
    split
    · exact close
    dsimp only
    split
    · exact close
    · refine trans ?_ ((acceptBytes reply _).trans ((serviceBufferedV1 _).trans (ih _)))
      exact other fun client => .other rfl rfl rfl rfl

theorem serviceClient (replies : Nat → FrameReplies) (flush : FlushReplies) :
    Advances s (s.serviceClient id replies flush) :=
  (serviceBufferedV1 replies).trans (update (TimerRun.flushPending flush))

theorem receivePolled (polled : PollReplies) : Advances s (s.receivePolled id polled) := by
  unfold Server.receivePolled
  split
  · exact refl
  split
  · exact refl
  split
  · unfold Server.receiveClient
    split
    · exact refl
    split
    · exact refl
    · exact receiveLoop _ _
  split
  · exact close
  · exact refl

theorem servePolled (polled : PollReplies) : Advances s (s.servePolled id polled) := by
  unfold Server.servePolled
  split
  · exact refl
  split
  · exact close
  dsimp only
  have hflush : Advances s
      (if polled.writable then s.update id (.flushPending polled.flush) else s) := by
    split
    · exact update (TimerRun.flushPending _)
    · exact refl
  generalize (if polled.writable then s.update id (.flushPending polled.flush) else s) = flushed
    at hflush ⊢
  split
  · exact hflush
  have hreceive : Advances s (flushed.receivePolled id polled) := hflush.trans (receivePolled _)
  split
  · exact hreceive
  · exact hreceive.trans (serviceClient _ _)

/-- Every turn is made of single operations. -/
theorem perform (turn : Turn) : Advances s (turn.perform s) := by
  cases turn with
  | observe now changes => exact observeState now changes
  | service id replies flush => exact serviceClient replies flush
  | polled id replies => exact servePolled replies
  | accept now => exact fun h => h.accept now
  | deadlines now => exact mapClients fun _ client _ => TimerRun.applyDeadline now client
  | cleanup => exact fun h => h.drop List.filter_sublist
  | shutdown => exact fun h => h.drop (List.nil_sublist _)

end Server.Advances

theorem Internally.of_reaches {history : List Turn} {s : Server}
    (h : Reaches Started reactorStep history s) : Internally s := by
  induction h with
  | start hs => exact .started hs
  | step turn _ hstep ih =>
    obtain rfl := Option.some.inj hstep
    exact Server.Advances.perform turn ih

/-! ### Deadlines and the timeout of `poll` -/

theorem applyDeadline_stalled {client : ClientState} {now : Nat}
    (hpending : client.outbound.isEmpty = false) (hactive : client.writeTimerActive = true)
    (hdue : client.writeProgressAt + kDefaultWriteStallTimeoutMs ≤ now) :
    (client.applyDeadline now).closed = true := by
  unfold ClientState.applyDeadline
  split
  · assumption
  split
  · rfl
  · rw [if_pos ⟨by rw [hpending]; rfl, hactive, hdue⟩]
    rfl

/-- A timeout of `poll` that ends, at `bound` at the latest. -/
def Waits (bound timeout : Int) : Prop := 0 ≤ timeout ∧ timeout ≤ bound

theorem Waits.includeDeadline {bound timeout : Int} (h : Waits bound timeout)
    (now deadline : Nat) : Waits bound (includeDeadline now deadline timeout) := by
  obtain ⟨hnonneg, hle⟩ := h
  unfold NetworkService.Ipc.includeDeadline Waits
  dsimp only
  split <;> split <;> omega

theorem waits_includeDeadline (now deadline : Nat) (timeout : Int) :
    Waits (max 0 (deadline - now)) (includeDeadline now deadline timeout) := by
  unfold includeDeadline Waits
  dsimp only
  split <;> split <;> omega

theorem Waits.includeDeadlines {bound timeout : Int} (h : Waits bound timeout) (now : Nat)
    (client : ClientState) : Waits bound (client.includeDeadlines now timeout) := by
  unfold ClientState.includeDeadlines
  dsimp only
  split <;> split
  · exact (h.includeDeadline _ _).includeDeadline _ _
  · exact h.includeDeadline _ _
  · exact h.includeDeadline _ _
  · exact h

/-- Later clients only shorten it. -/
theorem Waits.pollLoop {bound timeout waited : Int} (h : Waits bound timeout) (now : Nat)
    {clients : List ClientState} (hloop : pollLoop now clients timeout = some waited) :
    Waits bound waited := by
  induction clients generalizing timeout with
  | nil =>
    obtain rfl := Option.some.inj hloop
    exact h
  | cons client clients ih =>
    unfold NetworkService.Ipc.pollLoop at hloop
    split at hloop
    · exact ih h hloop
    split at hloop
    · cases hloop
    · exact ih (h.includeDeadlines now client) hloop

/-- The deadline of a client that runs its timer is among those looked at. -/
theorem waits_pollLoop {client : ClientState} {clients : List ClientState}
    (hclient : client ∈ clients) (hopen : client.closed = false)
    (hpending : client.outbound.isEmpty = false) (hactive : client.writeTimerActive = true)
    (now : Nat) {timeout waited : Int} (hloop : pollLoop now clients timeout = some waited) :
    Waits (max 0 (client.writeProgressAt + kDefaultWriteStallTimeoutMs - now)) waited := by
  induction clients generalizing timeout with
  | nil => cases hclient
  | cons first clients ih =>
    unfold pollLoop at hloop
    rcases List.mem_cons.mp hclient with rfl | hrest
    · rw [hopen, if_neg Bool.false_ne_true] at hloop
      split at hloop
      · cases hloop
      refine Waits.pollLoop ?_ now hloop
      unfold ClientState.includeDeadlines
      dsimp only
      rw [if_pos (show _ ∧ _ from ⟨by rw [hpending]; rfl, hactive⟩)]
      exact_mod_cast waits_includeDeadline now _ _
    · split at hloop
      · exact ih hrest hloop
      split at hloop
      · cases hloop
      · exact ih hrest hloop

theorem waits_pollTimeoutMs {s : Server} {id : ClientId} {client : ClientState}
    (hclient : (id, client) ∈ s.clients) (hopen : client.closed = false)
    (hpending : client.outbound.isEmpty = false) (hactive : client.writeTimerActive = true)
    (now nextLeaseReconcile nextFallbackObservation : Nat) :
    Waits (max 0 (client.writeProgressAt + kDefaultWriteStallTimeoutMs - now))
      (s.pollTimeoutMs now nextLeaseReconcile nextFallbackObservation) := by
  unfold Server.pollTimeoutMs
  split
  · exact ⟨Int.le_refl 0, Int.le_max_left 0 _⟩
  · next waited hloop =>
    have hmember : client ∈ s.clients.map Prod.snd := List.mem_map.mpr ⟨_, hclient, rfl⟩
    have hwaits := waits_pollLoop hmember hopen hpending hactive now hloop
    exact (hwaits.includeDeadline _ _).includeDeadline _ _

/-! ### Every state -/

/-- **Pending output always has an armed stall timer.**  Between any two operations of the reactor,
at the end of a turn or inside one, the log of each client accounts for its queue, and a client with
pending output has its timer running since the last progress in that log; so the next pass over the
deadlines closes it if it is stalled, and no `poll` waits past that. -/
theorem pending_output_timed :
    (∀ history s, Reaches Started reactorStep history s → Internally s) ∧
    ∀ s id client, Internally s → (id, client) ∈ s.clients →
      replayed client.queueLog = client.outbound ∧
      (client.closed = false → client.outbound.isEmpty = false →
        client.writeTimerActive = true ∧
        lastProgress client.queueLog = some client.writeProgressAt ∧
        (∀ now, client.writeProgressAt + kDefaultWriteStallTimeoutMs ≤ now →
          ∃ after, (id, after) ∈ (s.applyDeadlines now).clients ∧ after.closed = true) ∧
        ∀ now nextLeaseReconcile nextFallbackObservation,
          0 ≤ s.pollTimeoutMs now nextLeaseReconcile nextFallbackObservation ∧
          s.pollTimeoutMs now nextLeaseReconcile nextFallbackObservation ≤
            max 0 (client.writeProgressAt + kDefaultWriteStallTimeoutMs - now : Int)) := by
  refine ⟨fun history s h => Internally.of_reaches h, ?_⟩
  intro s id client h hclient
  obtain ⟨hreplays, hright⟩ := h.timed hclient
  refine ⟨hreplays, fun hopen hpending => ?_⟩
  obtain ⟨hactive, hprogress⟩ := hright hpending
  refine ⟨hactive, hprogress, fun now hdue => ?_, fun now lease fallback => ?_⟩
  · have hmember : (id, client.applyDeadline now) ∈ (s.applyDeadlines now).clients :=
      List.mem_map.mpr ⟨(id, client), hclient, rfl⟩
    exact ⟨_, hmember, applyDeadline_stalled hpending hactive hdue⟩
  · exact waits_pollTimeoutMs hclient hopen hpending hactive now lease fallback

/-- A line is received, and of its answer the kernel takes two bytes, at 40, and no more. -/
def stallingTurn : Turn :=
  .polled 0
    { readable := true
      receive := [
        { now := 5
          data := some (text "ping\n")
          v0Response := [1, 2, 3]
          v0Flush := { sends := [.wrote 40 2], now := 41 } }] }

def stallingServer : Server := stallingTurn.perform ((Server.start 9 8).acceptClient 3)

def stallingClient : ClientState := (stallingServer.client? 0).getD (.create 0)

theorem pending_output_timed_stalling :
    replayed stallingClient.queueLog = stallingClient.outbound ∧
      stallingClient.queueLog = [.consumed 40 2, .enqueued 5 [1, 2, 3]] ∧
      stallingClient.writeTimerActive = true ∧
      lastProgress stallingClient.queueLog = some stallingClient.writeProgressAt ∧
      ∃ after, (0, after) ∈ (stallingServer.applyDeadlines 1040).clients ∧ after.closed = true := by
  obtain ⟨hreach, htimed⟩ := pending_output_timed
  have hinside : Internally stallingServer := hreach [stallingTurn, .accept 3] _
    (.step _ (.step _ (.start ⟨9, 8, rfl⟩) rfl) rfl)
  obtain ⟨hreplays, hright⟩ := htimed stallingServer 0 stallingClient hinside (by decide +kernel)
  obtain ⟨hactive, hprogress, hdeadline, -⟩ := hright (by decide +kernel) (by decide +kernel)
  exact ⟨hreplays, by decide +kernel, hactive, hprogress, hdeadline 1040 (by decide +kernel)⟩

end NetworkService.Ipc
