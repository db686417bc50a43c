import NetworkService.Ipc.ReaderBounds

/-!
# The JSON scanners terminate within the text

`parse_hello_versions`, `parse_request` and `JsonReader::find_member` on every byte string.
-/

namespace NetworkService.Ipc

open Fallible Scanner

/-- **The scanners end on every text, within bounds.**  No loop goes round more often than the text is
long, and at most two more calls of `skip_value` are open at once than there may be levels. -/
theorem scanners_bounded (input wanted : Bytes) (turns : ℕ)
    (hturns : input.length + kMaxJsonDepth + 2 ≤ turns) :
    Bounded input (kMaxJsonDepth + 1) (Indexed.parseHelloVersions input turns) ∧
      Bounded input (kMaxJsonDepth + 1) (Indexed.parseRequest input turns) ∧
      Bounded input (kMaxJsonDepth + 2) (JsonReader.Indexed.findMember input turns wanted) := by
  have hhello : Meets input (kMaxJsonDepth + 1) (Indexed.parseHelloVersions input turns) 0 0 _ _ :=
    Indexed.parseHelloVersions_meets (by omega) (by omega)
  have hrequest : Meets input (kMaxJsonDepth + 1) (Indexed.parseRequest input turns) 0 0 _ _ :=
    Indexed.parseRequest_meets (by omega) (by omega)
  have hmember :
      Meets input (kMaxJsonDepth + 2) (JsonReader.Indexed.findMember input turns wanted) 0 0 _ _ :=
    JsonReader.Indexed.findMember_meets (by omega) (by omega) wanted
  exact ⟨hhello.bounded, hrequest.bounded, hmember.bounded⟩

theorem scanners_bounded_nested :
    Bounded [openBrace, quote, quote, ascii ':', ascii '[', ascii ']', closeBrace] 17
        (Indexed.parseHelloVersions
          [openBrace, quote, quote, ascii ':', ascii '[', ascii ']', closeBrace] 25) ∧
      Bounded [openBrace, quote, quote, ascii ':', ascii '[', ascii ']', closeBrace] 17
        (Indexed.parseRequest
          [openBrace, quote, quote, ascii ':', ascii '[', ascii ']', closeBrace] 25) ∧
      Bounded [openBrace, quote, quote, ascii ':', ascii '[', ascii ']', closeBrace] 18
        (JsonReader.Indexed.findMember
          [openBrace, quote, quote, ascii ':', ascii '[', ascii ']', closeBrace] 25 []) :=
  scanners_bounded [openBrace, quote, quote, ascii ':', ascii '[', ascii ']', closeBrace] [] 25
    (by decide)

/-- A turn that finds no key where it begins gives up there. -/
theorem turn_stands_still :
    ¬∀ (input : Bytes) (turns : ℕ), input.length + kMaxJsonDepth + 2 ≤ turns →
      ∀ source target rejected, Event.turn source target rejected ∈
        (after (Indexed.parseRequest input turns) {}).events → source < target := by
  intro h
  have hturn : Event.turn 1 1 true ∈
      (after (Indexed.parseRequest [openBrace, ascii 'x'] 20) {}).events := by decide
  exact Nat.lt_irrefl 1 (h [openBrace, ascii 'x'] 20 (by decide) 1 1 true hturn)

end NetworkService.Ipc
