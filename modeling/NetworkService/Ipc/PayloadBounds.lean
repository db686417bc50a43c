import NetworkService.Ipc.Numbers
import NetworkService.Ipc.ScanBounds

/-!
# HELLO and REQUEST are read within the text

`parse_hello_versions` and `parse_request` by position answer what their counterparts over the rest
of the text answer, from the specifications of the scanners.
-/

namespace NetworkService.Ipc.Indexed

open Fallible Scanner

section Specifications

variable {payload : Bytes} {turns limit k p : ℕ}

/-! ### HELLO -/

theorem helloMembers_step (n : ℕ) (versions : HelloVersions) (s : Bytes) :
    helloMembers (n + 1) versions s = (Ipc.memberKey s).bind fun member =>
      (Ipc.helloMember member.1 versions member.2).bind fun read =>
        goOn (fun rest => some (read.1, rest)) (helloMembers n read.1) none
          (afterItem closeBrace read.2) := by
  simp only [goOn_afterItem]
  rfl

/-- One of the two versions, which is stored if none is. -/
theorem versionMember_meets (hturns : payload.length < turns) (stored : Option UInt64)
    (store : UInt64 → HelloVersions) :
    Meets payload limit
      (do
        let parsed ← parseUint64 payload turns
        if stored.isSome then reject () else pure (store parsed))
      k p
      (fun versions q => ((Ipc.parseUint64 (payload.drop p)).bind fun read =>
        if stored.isSome then none else some (store read.1, read.2)) = some (versions, payload.drop q))
      (fun _ => ((Ipc.parseUint64 (payload.drop p)).bind fun read =>
        if stored.isSome then none else some (store read.1, read.2)) = none) := by
  refine Meets.seq (parseUint64_meets hturns) (fun _ hnone => ?_) fun parsed q _ _ hread => ?_
  · rw [hnone]
    rfl
  · rw [hread]
    exact Meets.ite (fun htwice => Meets.reject (if_pos htwice)) fun hfirst =>
      Meets.pure (if_neg hfirst)

theorem helloMember_meets (hturns : payload.length + kMaxJsonDepth < turns)
    (hlimit : k + kMaxJsonDepth < limit) (key : Bytes) (versions : HelloVersions) :
    Meets payload limit (helloMember payload turns key versions) k p
      (fun read q => Ipc.helloMember key versions (payload.drop p) = some (read, payload.drop q))
      (fun _ => Ipc.helloMember key versions (payload.drop p) = none) := by
  unfold Ipc.helloMember
  refine Meets.ite (fun hmin => ?_) fun hmin => ?_
  · rw [if_pos hmin]
    exact versionMember_meets (by omega) versions.minVersion fun parsed =>
      { versions with minVersion := some parsed }
  rw [if_neg hmin]
  refine Meets.ite (fun hmax => ?_) fun hmax => ?_
  · rw [if_pos hmax]
    exact versionMember_meets (by omega) versions.maxVersion fun parsed =>
      { versions with maxVersion := some parsed }
  · rw [if_neg hmax]
    refine Meets.seq (skipMemberValue_passes hturns hlimit) (fun _ hnone => ?_) ?_
    · rw [hnone]
      rfl
    · intro _ q _ _ hpassed
      rw [hpassed]
      exact Meets.pure rfl

theorem helloTurn_meets (hturns : payload.length + kMaxJsonDepth < turns)
    (hlimit : k + kMaxJsonDepth < limit) (n : ℕ) (versions : HelloVersions) :
    Meets payload limit (turn (helloTurn payload turns versions)) k p
      (fun next q => next.elim
        (fun read => p < q ∧ helloMembers n read (payload.drop q) =
          helloMembers (n + 1) versions (payload.drop p))
        fun read => helloMembers (n + 1) versions (payload.drop p) = some (read, payload.drop q))
      (fun _ => helloMembers (n + 1) versions (payload.drop p) = none) := by
  rw [helloMembers_step]
  refine Meets.turn (Meets.seq (memberKey_meets (by omega)) (fun _ hnone => ?_) ?_)
  · rw [hnone]
    rfl
  intro key q _ _ hkey
  rw [hkey, Option.bind_some]
  refine Meets.seq (helloMember_meets hturns hlimit key versions) (fun _ hnone => ?_) ?_
  · rw [hnone]
    rfl
  intro read r _ _ hread
  rw [hread, Option.bind_some]
  refine Meets.seq (closes_meets (by omega) closeBrace) (fun _ hnone => ?_) ?_
  · rw [hnone]
    rfl
  rintro closed r' - - ⟨hmoved, hafter⟩
  rw [hafter]
  cases closed with
  | true => exact Meets.pure ⟨by omega, rfl⟩
  | false => exact Meets.pure ⟨by omega, by omega, rfl⟩

/-- The end of `parse_hello_versions`. -/
def helloResult (versions : HelloVersions) (rest : Bytes) : Option (UInt64 × UInt64) :=
  versions.minVersion.bind fun minVersion => versions.maxVersion.bind fun maxVersion =>
    if Ipc.skipWs rest = [] ∧ minVersion ≤ maxVersion then some (minVersion, maxVersion) else none

theorem parseHelloVersions_eq (payload : Bytes) :
    Ipc.parseHelloVersions payload = (Ipc.expect openBrace (Ipc.skipWs payload)).bind fun rest =>
      if (Ipc.expect closeBrace (Ipc.skipWs rest)).isSome then none
      else (helloMembers payload.length {} (Ipc.skipWs rest)).bind fun read =>
        helloResult read.1 read.2 := rfl

theorem helloEnd_meets (hturns : payload.length < turns) (versions : HelloVersions) :
    Meets payload limit (helloEnd payload turns versions) k p
      (fun read _ => helloResult versions (payload.drop p) = some read)
      (fun _ => helloResult versions (payload.drop p) = none) := by
  unfold helloResult
  refine Meets.bind (skipWs_meets hturns fun q _ hq hskipped => Meets.bind (Meets.position ?_))
  rw [← hskipped]
  have hatEnd : payload.drop q = [] ↔ q = payload.length := drop_eq_nil_iff hq
  cases versions.minVersion with
  | none => exact Meets.reject rfl
  | some minVersion =>
    cases versions.maxVersion with
    | none => exact Meets.reject rfl
    | some maxVersion =>
      refine Meets.ite (fun hend => Meets.pure (if_pos ⟨hatEnd.mpr hend.1, hend.2⟩)) fun hend => ?_
      exact Meets.reject (if_neg fun h => hend ⟨hatEnd.mp h.1, h.2⟩)

/-- **`parse_hello_versions` reads what its counterpart reads.** -/
theorem parseHelloVersions_meets (hturns : payload.length + kMaxJsonDepth < turns)
    (hlimit : kMaxJsonDepth < limit) :
    Meets payload limit (parseHelloVersions payload turns) 0 0
      (fun read _ => Ipc.parseHelloVersions payload = some read)
      (fun _ => Ipc.parseHelloVersions payload = none) := by
  rw [parseHelloVersions_eq]
  refine Meets.bind (skipWs_meets (by omega) fun q _ _ hskipped => ?_)
  have hfront : Ipc.skipWs payload = payload.drop q := hskipped.symm
  rw [hfront]
  refine Meets.bind (Meets.pass (fun hno => ?_) fun c rest hrest hc hnext => ?_)
  · rw [expect_eq_none hno]
    rfl
  rw [hrest, expect_cons hc, Option.bind_some, ← hnext]
  refine Meets.bind (skipWs_meets (by omega) fun r hqr _ hskipped => ?_)
  rw [← hskipped, expect_isSome]
  refine Meets.bind (Meets.sees (Meets.ite (fun hempty => Meets.reject (if_pos hempty)) ?_))
  intro hmembers
  rw [if_neg hmembers]
  refine Meets.seq (Meets.loop_reads helloMembers (fun read rest => some (read, rest)) (fun _ => none)
    (fun n versions _ _ _ => helloTurn_meets hturns (by omega) n versions)
    (n := payload.length) (by omega) (by omega)) (fun _ hnone => ?_) ?_
  · rw [hnone]
    rfl
  intro versions r' _ _ hread
  rw [hread]
  exact helloEnd_meets (by omega) versions

/-! ### REQUEST -/

theorem continuesNumber_eq (s : Bytes) : continuesNumber s =
    startsWith (fun next => next == ascii '.' || next == ascii 'e' || next == ascii 'E') s := by
  cases s <;> rfl

/-- A number that was read has digits. -/
theorem parseUint64_moves {q : ℕ} {parsed : UInt64}
    (h : Ipc.parseUint64 (payload.drop p) = some (parsed, payload.drop q)) : q ≠ p := by
  rintro rfl
  obtain ⟨digits, hdigits, hne, -⟩ := parseUint64_eq_some h
  exact hne (List.self_eq_append_left.mp hdigits)

/-- A member is read, or the request is left as it was. -/
def MemberMeets (payload : Bytes) (limit : ℕ) (m : Scan RequestFailure ParsedRequest) (k p : ℕ)
    (out : ParsedRequest) (f : Bytes → Except RequestParseError (ParsedRequest × Bytes)) : Prop :=
  Meets payload limit m k p (fun read q => f (payload.drop p) = .ok (read, payload.drop q))
    (fun failure => f (payload.drop p) = .error failure.1 ∧ failure.2 = out)

theorem requestIdMember_meets (hturns : payload.length < turns) (out : ParsedRequest) :
    MemberMeets payload limit (requestIdMember payload turns out) k p out
      (Ipc.requestIdMember out) := by
  unfold MemberMeets Ipc.requestIdMember
  refine Meets.ite (fun htwice => Meets.reject ⟨if_pos htwice, rfl⟩) fun hfirst => ?_
  rw [if_neg hfirst]
  refine Meets.bind (Meets.position ?_)
  refine Meets.seq (Meets.orReturn (parseUint64_meets hturns) fun _ hnone => ?_) (fun _ h => h) ?_
  · rw [hnone]
    exact ⟨rfl, rfl⟩
  intro parsed q _ _ hread
  rw [hread]
  dsimp only
  refine Meets.ite (fun hzero => Meets.reject ⟨if_pos hzero, rfl⟩) fun hzero => ?_
  rw [if_neg hzero, continuesNumber_eq]
  refine Meets.bind (Meets.sees (Meets.ite (fun hmore => Meets.reject ⟨if_pos hmore, rfl⟩) ?_))
  intro hends
  rw [if_neg hends]
  refine Meets.bind (Meets.position (Meets.ite (fun hstays => ?_) fun _ => Meets.pure rfl))
  exact absurd hstays (parseUint64_moves hread)

theorem methodMember_meets (hturns : payload.length < turns) (out : ParsedRequest) :
    MemberMeets payload limit (methodMember payload turns out) k p out (Ipc.methodMember out) := by
  unfold MemberMeets Ipc.methodMember
  refine Meets.ite (fun htwice => Meets.reject ⟨if_pos htwice, rfl⟩) fun hfirst => ?_
  rw [if_neg hfirst]
  refine Meets.seq (Meets.orReturn (parseString_meets hturns) fun _ hnone => ?_) (fun _ h => h) ?_
  · rw [hnone]
    exact ⟨rfl, rfl⟩
  intro method q _ _ hread
  rw [hread]
  dsimp only
  exact Meets.ite (fun hempty => Meets.reject ⟨if_pos hempty, rfl⟩) fun hmethod =>
    Meets.pure (if_neg hmethod)

theorem paramsMember_meets (hturns : payload.length + kMaxJsonDepth < turns)
    (hlimit : k + kMaxJsonDepth < limit) (out : ParsedRequest) :
    MemberMeets payload limit (paramsMember payload turns out) k p out (Ipc.paramsMember out) := by
  unfold MemberMeets Ipc.paramsMember
  refine Meets.ite (fun htwice => Meets.reject ⟨if_pos htwice, rfl⟩) fun hfirst => ?_
  rw [if_neg hfirst]
  refine Meets.inside fun hp => Meets.bind (Meets.sees ?_)
  rw [← expect_isSome]
  refine Meets.ite (fun hobject => ?_) fun hobject => Meets.reject ⟨if_pos ?_, rfl⟩
  · rw [if_neg (by rw [Option.isNone_eq_false_iff.mpr hobject]; exact Bool.false_ne_true)]
    refine Meets.bind (Meets.position ?_)
    refine Meets.seq (Meets.orReturn (skipMemberValue_passes hturns hlimit) fun _ hnone => ?_)
      (fun _ h => h) ?_
    · rw [hnone]
      exact ⟨rfl, rfl⟩
    intro _ q hpq _ hpassed
    rw [hpassed]
    refine Meets.bind (Meets.position (Meets.bind (Meets.slice hp (Meets.pure ?_))))
    have hlength : (payload.drop p).length - (payload.drop q).length = q - p := by
      rw [List.length_drop, List.length_drop]
      omega
    rw [← hlength]
  · rw [Option.isNone_iff_eq_none, ← Option.not_isSome_iff_eq_none]
    exact hobject

theorem requestMember_meets (hturns : payload.length + kMaxJsonDepth < turns)
    (hlimit : k + kMaxJsonDepth < limit) (key : Bytes) (out : ParsedRequest) :
    MemberMeets payload limit (requestMember payload turns key out) k p out
      (Ipc.requestMember key out) := by
  unfold MemberMeets Ipc.requestMember
  refine Meets.ite (fun hid => ?_) fun hid => ?_
  · rw [if_pos hid]
    exact requestIdMember_meets (by omega) out
  rw [if_neg hid]
  refine Meets.ite (fun hmethod => ?_) fun hmethod => ?_
  · rw [if_pos hmethod]
    exact methodMember_meets (by omega) out
  rw [if_neg hmethod]
  refine Meets.ite (fun hparams => ?_) fun hparams => ?_
  · rw [if_pos hparams]
    exact paramsMember_meets hturns hlimit out
  rw [if_neg hparams]
  refine Meets.seq (Meets.orReturn (skipMemberValue_passes hturns hlimit) fun _ hnone => ?_)
    (fun _ h => h) ?_
  · rw [hnone]
    exact ⟨rfl, rfl⟩
  · intro _ q _ _ hpassed
    rw [hpassed]
    exact Meets.pure rfl

theorem requestMembers_step (n : ℕ) (out : ParsedRequest) (s : Bytes) :
    requestMembers (n + 1) out s =
      match Ipc.memberKey s with
      | none => (.invalidJson, out)
      | some member =>
        match Ipc.requestMember member.1 out member.2 with
        | .error parseError => (parseError, out)
        | .ok read =>
          goOn (Ipc.requestEnd read.1) (requestMembers n read.1) (.invalidJson, read.1)
            (afterItem closeBrace read.2) := by
  simp only [goOn_afterItem]
  rw [requestMembers]
  cases Ipc.memberKey s with
  | none => rfl
  | some member =>
    obtain ⟨key, value⟩ := member
    dsimp only
    cases Ipc.requestMember key out value with
    | error parseError => rfl
    | ok read => cases Ipc.skipWs read.2 <;> rfl

theorem requestTurn_meets (hturns : payload.length + kMaxJsonDepth < turns)
    (hlimit : k + kMaxJsonDepth < limit) (n : ℕ) (out : ParsedRequest) :
    Meets payload limit (turn (requestTurn payload turns out)) k p
      (fun next q => next.elim
        (fun read => p < q ∧ requestMembers n read (payload.drop q) =
          requestMembers (n + 1) out (payload.drop p))
        fun read => requestMembers (n + 1) out (payload.drop p) =
          Ipc.requestEnd read (payload.drop q))
      (fun failure => requestMembers (n + 1) out (payload.drop p) = failure) := by
  rw [requestMembers_step]
  refine Meets.turn (Meets.seq (Meets.orReturn (memberKey_meets (by omega)) fun _ hnone => ?_)
    (fun _ h => h) ?_)
  · rw [hnone]
  intro key q _ _ hkey
  rw [hkey]
  dsimp only
  refine Meets.seq (requestMember_meets hturns hlimit key out) ?_ ?_
  · rintro ⟨parseError, out'⟩ ⟨hfailed, rfl⟩
    rw [hfailed]
  intro read r _ _ hread
  rw [hread]
  dsimp only
  refine Meets.seq (Meets.orReturn (closes_meets (by omega) closeBrace) fun _ hnone => ?_)
    (fun _ h => h) ?_
  · rw [hnone]
    rfl
  rintro closed r' - - ⟨hmoved, hafter⟩
  rw [hafter]
  cases closed with
  | true => exact Meets.pure ⟨by omega, rfl⟩
  | false => exact Meets.pure ⟨by omega, by omega, rfl⟩

theorem requestEnd_meets (hturns : payload.length < turns) (out : ParsedRequest) :
    Meets payload limit (requestEnd payload turns out) k p
      (fun read _ => Ipc.requestEnd out (payload.drop p) = (.none, read))
      (fun failure => Ipc.requestEnd out (payload.drop p) = failure) := by
  unfold Ipc.requestEnd
  refine Meets.bind (skipWs_meets hturns fun q _ hq hskipped => Meets.bind (Meets.position ?_))
  rw [← hskipped]
  have hatEnd : payload.drop q = [] ↔ q = payload.length := drop_eq_nil_iff hq
  refine Meets.ite (fun hmore => Meets.reject (if_pos fun h => hmore (hatEnd.mp h))) fun hend => ?_
  rw [if_neg (not_not_intro (hatEnd.mpr (Decidable.not_not.mp hend)))]
  refine Meets.ite (fun hid => Meets.reject (if_pos hid)) fun hid => ?_
  rw [if_neg hid]
  exact Meets.ite (fun hmethod => Meets.reject (if_pos hmethod)) fun hmethod =>
    Meets.pure (if_neg hmethod)

theorem parseRequest_eq (payload : Bytes) :
    Ipc.parseRequest payload =
      match Ipc.expect openBrace (Ipc.skipWs payload) with
      | none => (.invalidJson, {})
      | some rest =>
        if (Ipc.expect closeBrace (Ipc.skipWs rest)).isSome then (.missingRequestId, {})
        else requestMembers payload.length {} (Ipc.skipWs rest) := by
  unfold Ipc.parseRequest
  cases Ipc.expect openBrace (Ipc.skipWs payload) <;> rfl

/-- **`parse_request` reads what its counterpart reads.** -/
theorem parseRequest_meets (hturns : payload.length + kMaxJsonDepth < turns)
    (hlimit : kMaxJsonDepth < limit) :
    Meets payload limit (parseRequest payload turns) 0 0
      (fun out _ => Ipc.parseRequest payload = (.none, out))
      (fun failure => Ipc.parseRequest payload = failure) := by
  rw [parseRequest_eq]
  refine Meets.bind (skipWs_meets (by omega) fun q _ _ hskipped => ?_)
  have hfront : Ipc.skipWs payload = payload.drop q := hskipped.symm
  rw [hfront]
  refine Meets.bind (Meets.pass (fun hno => ?_) fun c rest hrest hc hnext => ?_)
  · rw [expect_eq_none hno]
  rw [hrest, expect_cons hc, ← hnext]
  dsimp only
  refine Meets.bind (skipWs_meets (by omega) fun r hqr _ hskipped => ?_)
  rw [← hskipped, expect_isSome]
  refine Meets.bind (Meets.sees (Meets.ite (fun hempty => Meets.reject (if_pos hempty)) ?_))
  intro hmembers
  rw [if_neg hmembers]
  refine Meets.seq (Meets.loop_reads requestMembers Ipc.requestEnd id
    (fun n out _ _ _ => requestTurn_meets hturns (by omega) n out)
    (n := payload.length) (by omega) (by omega)) (fun _ hfailed => hfailed) ?_
  intro out r' _ _ hread
  rw [hread]
  exact requestEnd_meets (by omega) out

end Specifications

end NetworkService.Ipc.Indexed
