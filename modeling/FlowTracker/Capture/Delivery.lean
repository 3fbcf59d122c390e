import FlowTracker.Octets

/-!
# How octets arrive

A reader gets its octets in pieces: a read may return fewer octets than were asked for, it may be
interrupted, and it may fail.  `Delivery.fill` asks again until it has all octets or the input ends;
interruptions and the borders of the pieces leave no trace in its answer, and a failure loses what
was read for the same answer.
-/

namespace FlowTracker

inductive Piece where
  | data (octets : Octets)
  /-- A read that was interrupted and is to be repeated. -/
  | interrupted
  | failure (error : String)
  deriving DecidableEq, Repr, Inhabited

/-- What the reads of an input meet, in order; behind it lies the end of the input. -/
abbrev Delivery := List Piece

namespace Delivery

def size : Delivery → Nat
  | [] => 0
  | .data octets :: rest => octets.length + size rest
  | .interrupted :: rest => size rest
  | .failure _ :: rest => size rest

/-- Reads `want` octets, fewer only at the end of the input, and returns what is left. -/
def fill : (want : Nat) → Delivery → Except String Octets × Delivery
  | 0, pieces => (.ok [], pieces)
  | _ + 1, [] => (.ok [], [])
  | want + 1, .interrupted :: rest => fill (want + 1) rest
  | _ + 1, .failure error :: rest => (.error error, rest)
  | want + 1, .data octets :: rest =>
    let part := octets.take (want + 1)
    if want < part.length then (.ok part, .data (octets.drop (want + 1)) :: rest)
    else
      let (found, rest) := fill (want + 1 - part.length) rest
      (found.map (part ++ ·), rest)
  termination_by _ pieces => pieces.length

/-- What was read is gone from the input. -/
theorem size_fill {want : Nat} {pieces rest : Delivery} {octets : Octets}
    (h : fill want pieces = (.ok octets, rest)) : octets.length + size rest = size pieces := by
  induction pieces generalizing want octets rest with
  | nil =>
    cases want <;> simp [fill] at h <;> obtain ⟨rfl, rfl⟩ := h <;> rfl
  | cons piece pieces ih =>
    cases want with
    | zero =>
      simp only [fill, Prod.mk.injEq, Except.ok.injEq] at h
      obtain ⟨rfl, rfl⟩ := h
      simp
    | succ want =>
      cases piece with
      | interrupted =>
        simp only [fill] at h
        exact ih h
      | failure error => simp [fill] at h
      | data found =>
        simp only [fill] at h
        split at h
        · rename_i hlen
          simp only [List.length_take] at hlen
          simp only [Prod.mk.injEq, Except.ok.injEq] at h
          obtain ⟨rfl, rfl⟩ := h
          simp only [size, List.length_take, List.length_drop]
          omega
        · rename_i hlen
          simp only [List.length_take] at hlen
          generalize hfill : fill (want + 1 - (found.take (want + 1)).length) pieces = result at h
          obtain ⟨answer, rest'⟩ := result
          cases answer with
          | error error => simp [Except.map] at h
          | ok octets' =>
            simp only [Except.map, Prod.mk.injEq, Except.ok.injEq] at h
            obtain ⟨rfl, rfl⟩ := h
            have := ih hfill
            simp only [size, List.length_append, List.length_take]
            omega

end Delivery

end FlowTracker
