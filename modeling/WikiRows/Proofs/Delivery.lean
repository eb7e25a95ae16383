import Mathlib
import WikiRows.Client

/-!
# What a payload delivers

A failure of the source loses what was read before it. So a payload reports the failures of its
source one call after the other, and every later call gives what the source holds behind the last
of them; `Payload.answers_eq` says this of all runs of calls. What is given is the same each time,
and it is the whole of the source just when nothing stands in front of a failure.
-/

namespace WikiRows

namespace Source

def failures : Source → List String
  | [] => []
  | .bytes [] :: _ => []
  | .bytes _ :: rest => failures rest
  | .interrupted :: rest => failures rest
  | .failed text :: rest => text :: failures rest

/-- All bytes of a source, whatever fails between them. -/
def whole : Source → List UInt8
  | [] => []
  | .bytes [] :: _ => []
  | .bytes chunk :: rest => chunk ++ whole rest
  | .interrupted :: rest => whole rest
  | .failed _ :: rest => whole rest

def lost : Source → List UInt8
  | [] => []
  | .bytes [] :: _ => []
  | .bytes chunk :: rest => if failures rest = [] then [] else chunk ++ lost rest
  | .interrupted :: rest => lost rest
  | .failed _ :: rest => lost rest

/-- The bytes behind the last failure, or all if there is none. -/
def kept : Source → List UInt8
  | [] => []
  | .bytes [] :: _ => []
  | .bytes chunk :: rest => if failures rest = [] then chunk ++ kept rest else kept rest
  | .interrupted :: rest => kept rest
  | .failed _ :: rest => kept rest

theorem lost_of_failures {s : Source} (h : s.failures = []) : s.lost = [] := by
  fun_induction failures s with
  | case1 | case2 => rfl
  | case3 chunk rest hne ih => simp [lost, h]
  | case4 rest ih => exact ih h
  | case5 => simp at h

theorem whole_eq (s : Source) : s.whole = s.lost ++ s.kept := by
  fun_induction whole s with
  | case1 | case2 => rfl
  | case3 chunk rest hne ih =>
    by_cases h : failures rest = []
    · simp [lost, kept, h, ih, lost_of_failures h]
    · simp [lost, kept, h, ih]
  | case4 rest ih | case5 text rest ih => exact ih

theorem readAll_of_failures_nil {s : Source} (h : s.failures = []) :
    s.readAll.1 = .ok s.kept := by
  fun_induction failures s with
  | case1 | case2 => rfl
  | case3 chunk rest hne ih =>
    obtain ⟨left, hread⟩ : ∃ left, readAll rest = (.ok (kept rest), left) :=
      ⟨_, Prod.ext (ih h) rfl⟩
    simp [readAll, kept, h, hread]
  | case4 rest ih => exact ih h
  | case5 => simp at h

/-- Reading goes on to the first failure, and leaves the others and what stands behind them. -/
theorem readAll_of_failures_cons {s : Source} {text : String} {texts : List String}
    (h : s.failures = text :: texts) :
    ∃ rest, s.readAll = (.error text, rest) ∧ rest.failures = texts ∧ rest.kept = s.kept := by
  fun_induction failures s with
  | case1 | case2 => simp at h
  | case3 chunk rest hne ih =>
    obtain ⟨left, hread, hleft, hkept⟩ := ih h
    exact ⟨left, by simp [readAll, hread], hleft, by simp [kept, h, hkept]⟩
  | case4 rest ih => exact ih h
  | case5 first rest ih =>
    obtain ⟨rfl, rfl⟩ := List.cons.inj h
    exact ⟨rest, rfl, rfl, rfl⟩

end Source

/-- How the contents of a payload are asked for. Copies of a parameter share its payload, so that
a call through a copy is a call like any other. -/
inductive Access where
  | contents
  | reader
  deriving DecidableEq, Repr

namespace Payload

def failures : Payload → List String
  | pending source => source.failures
  | buffered _ => []

def kept : Payload → List UInt8
  | pending source => source.kept
  | buffered bytes => bytes

def access (p : Payload) : Access → Except String (List UInt8) × Payload
  | .contents => p.contents
  | .reader => p.reader

def after (p : Payload) (calls : List Access) : Payload :=
  calls.foldl (fun p call => (p.access call).2) p

def answers (p : Payload) : List Access → List (Except String (List UInt8))
  | [] => []
  | call :: calls => (p.access call).1 :: answers (p.access call).2 calls

theorem access_eq (p : Payload) (call : Access) : p.access call = p.contents := by
  cases call <;> rfl

theorem contents_of_failures_nil {p : Payload} (h : p.failures = []) :
    p.contents = (.ok p.kept, .buffered p.kept) := by
  cases p with
  | buffered bytes => rfl
  | pending source =>
    obtain ⟨left, hread⟩ : ∃ left, source.readAll = (.ok source.kept, left) :=
      ⟨_, Prod.ext (Source.readAll_of_failures_nil h) rfl⟩
    simp [contents, kept, hread]

theorem contents_of_failures_cons {p : Payload} {text : String} {texts : List String}
    (h : p.failures = text :: texts) :
    ∃ next, p.contents = (.error text, next) ∧ next.failures = texts ∧ next.kept = p.kept := by
  cases p with
  | buffered bytes => simp [failures] at h
  | pending source =>
    obtain ⟨rest, hread, hfailures, hkept⟩ := Source.readAll_of_failures_cons h
    exact ⟨.pending rest, by simp [contents, hread], hfailures, hkept⟩

/-- The failures come first, one for each call, and then always the same bytes. -/
theorem answers_eq (p : Payload) (calls : List Access) :
    p.answers calls =
      (p.failures.map Except.error ++ List.replicate calls.length (Except.ok p.kept)).take
        calls.length := by
  induction calls generalizing p with
  | nil => rfl
  | cons call calls ih =>
    rw [answers, ih, access_eq]
    cases h : p.failures with
    | nil =>
      rw [contents_of_failures_nil h]
      simp [failures, kept, List.replicate_succ]
    | cons text texts =>
      -- The call takes the first failure, and the bytes behind the last one stay the same.
      obtain ⟨next, hc, hf, hk⟩ := contents_of_failures_cons h
      rw [hc, hf, hk]
      simp only [List.map_cons, List.cons_append, List.length_cons, List.take_succ_cons,
        List.take_append, List.take_replicate, List.length_map]
      congr 3
      omega

/-- Once the failures are through, the source is given up. -/
theorem after_eq_buffered {p : Payload} {calls : List Access}
    (h : p.failures.length < calls.length) : p.after calls = .buffered p.kept := by
  induction calls generalizing p with
  | nil => simp at h
  | cons call calls ih =>
    have hcons : p.after (call :: calls) = p.contents.2.after calls := by
      rw [after, List.foldl_cons, access_eq]
      rfl
    rw [hcons]
    cases hf : p.failures with
    | nil =>
      rw [contents_of_failures_nil hf]
      cases calls with
      | nil => rfl
      | cons => exact ih (by simp [failures])
    | cons text texts =>
      obtain ⟨next, hc, hnext, hk⟩ := contents_of_failures_cons hf
      rw [hc, ← hk]
      exact ih (by simpa [hf, hnext] using h)

theorem ok_mem_answers_iff {p : Payload} {calls : List Access} {bytes : List UInt8} :
    .ok bytes ∈ p.answers calls ↔ p.failures.length < calls.length ∧ bytes = p.kept := by
  have hfail : .ok bytes ∉ (p.failures.map Except.error).take calls.length := by
    intro hmem
    simpa using List.mem_of_mem_take hmem
  rw [answers_eq, List.take_append, List.mem_append, or_iff_right hfail, List.take_replicate,
    List.mem_replicate, List.length_map, Except.ok.injEq]
  exact and_congr_left' (by omega)

/-- The answers to any run of calls. Every call that succeeds gives the bytes behind the last
failure of the source and leaves no source to be read; these are the whole of the source unless
bytes stand in front of a failure and the calls go on beyond it. -/
theorem delivered_whole_iff (source : Source) (calls : List Access) :
    (pending source).answers calls =
      (source.failures.map Except.error ++ List.replicate calls.length (Except.ok source.kept)).take
        calls.length ∧
    (∀ bytes, .ok bytes ∈ (pending source).answers calls →
      (pending source).after calls = .buffered bytes) ∧
    ((∀ bytes, .ok bytes ∈ (pending source).answers calls → bytes = source.whole) ↔
      calls.length ≤ source.failures.length ∨ source.lost = []) := by
  refine ⟨answers_eq _ _, ?_, ?_⟩
  · intro bytes hmem
    obtain ⟨hlen, rfl⟩ := ok_mem_answers_iff.mp hmem
    exact after_eq_buffered hlen
  · have hkept : source.kept = source.whole ↔ source.lost = [] := by
      rw [source.whole_eq]
      simp
    constructor
    · intro h
      by_contra hn
      obtain ⟨hlen, hlost⟩ := not_or.mp hn
      exact hlost (hkept.mp (h _ (ok_mem_answers_iff.mpr ⟨not_le.mp hlen, rfl⟩)))
    · rintro h bytes hmem
      obtain ⟨hlen, rfl⟩ := ok_mem_answers_iff.mp hmem
      exact hkept.mpr (h.resolve_left (not_le.mpr hlen))

/-- A source that fails between two chunks loses the first one. -/
theorem second_call_gives_rest :
    let source : Source := [.bytes [97, 98], .failed "late", .bytes [99, 100]]
    (pending source).answers [.contents, .contents] = [.error "late", .ok [99, 100]] ∧
      source.whole = [97, 98, 99, 100] :=
  ⟨rfl, rfl⟩

end Payload

end WikiRows
