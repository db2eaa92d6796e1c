import Mathlib.Data.List.Forall2
import TracedMath.Stream

namespace TracedMath.StreamWriter

def Payload.encoded : Payload → List UInt8
  | bytes b => b
  | text t => utf8 t

/-- How a write to a descriptor without a stream ends. Only a write of bytes names the descriptor. -/
def Payload.refusal (fd : Int32) : Payload → Response
  | bytes _ => .failed (.noWriter fd)
  | text _ => .textFailed

theorem Payload.refusal_ne_written (fd : Int32) (p : Payload) : p.refusal fd ≠ .written := by
  cases p <;> exact Response.noConfusion

theorem Payload.eq_noWriter_of_refusal {fd : Int32} {p : Payload} {reason : StreamError}
    (h : p.refusal fd = .failed reason) : reason = .noWriter fd := by
  cases p with
  | bytes b => exact (Response.failed.inj h).symm
  | text t => cases h

/-- A call either adds all of its bytes to one stream or leaves both as they are. -/
theorem serve_eq (w : StreamWriter) (r : Request) (s : Streams) :
    w.serve r s =
      if (w.retarget r).fd = 1 then
        (.written, { s with stdout := s.stdout ++ r.payload.encoded })
      else if (w.retarget r).fd = 2 then
        (.written, { s with stderr := s.stderr ++ r.payload.encoded })
      else (r.payload.refusal (w.retarget r).fd, s) := by
  unfold serve
  generalize w.retarget r = v
  by_cases out : v.fd = 1
  · cases payload : r.payload <;> simp [writeText, write, out, Except.toOption, Payload.encoded]
  · by_cases err : v.fd = 2
    · cases payload : r.payload <;> simp [writeText, write, err, Except.toOption, Payload.encoded]
    · cases payload : r.payload <;>
        simp [writeText, write, out, err, Except.toOption, Payload.refusal]

/-- The answer to a call, for the descriptor in the writer at that moment and what it is to write. -/
structure Served (fd : Int32) (p : Payload) (answer : Response × StreamWriter × Streams) : Prop where
  kept : answer.2.1.fd = fd
  stdout : fd = 1 → answer.2.2 = ⟨p.encoded, []⟩
  stderr : fd = 2 → answer.2.2 = ⟨[], p.encoded⟩
  written : answer.1 = .written ↔ fd = 1 ∨ fd = 2
  refused : fd ≠ 1 → fd ≠ 2 → answer.1 = p.refusal fd ∧ answer.2.2 = ⟨[], []⟩
  named : ∀ reason, answer.1 = .failed reason →
    reason.kind = "Unsupported" ∧ reason.message = "no writer for fd " ++ toString fd.toInt

theorem serve_served (w : StreamWriter) (r : Request) :
    Served (w.retarget r).fd r.payload
      ((w.serve r ⟨[], []⟩).1, w.retarget r, (w.serve r ⟨[], []⟩).2) := by
  rw [serve_eq]
  generalize w.retarget r = v
  have failed := r.payload.refusal_ne_written v.fd
  by_cases out : v.fd = 1
  · constructor <;> simp [out]
  · by_cases err : v.fd = 2
    · constructor <;> simp [err]
    · refine ⟨rfl, by simp [out], by simp [err], by simp [out, err, failed], by simp [out, err], ?_⟩
      intro reason refused
      rw [if_neg out, if_neg err] at refused
      rw [Payload.eq_noWriter_of_refusal refused]
      exact ⟨rfl, rfl⟩

/-- The descriptor that each call finds in the writer, with what the call is to write. -/
def calls (w : StreamWriter) : List Request → List (Int32 × Payload)
  | [] => []
  | r :: rest => ((w.retarget r).fd, r.payload) :: (w.retarget r).calls rest

/-- The bytes of the calls for one descriptor, in the order of the calls. -/
def sentTo (fd : Int32) (calls : List (Int32 × Payload)) : List UInt8 :=
  (calls.filter fun call => call.1 = fd).flatMap fun call => call.2.encoded

theorem sentTo_cons (fd : Int32) (call : Int32 × Payload) (rest : List (Int32 × Payload)) :
    sentTo fd (call :: rest) = (if call.1 = fd then call.2.encoded else []) ++ sentTo fd rest := by
  unfold sentTo
  by_cases same : call.1 = fd <;> simp [same]

theorem run_eq (w : StreamWriter) (s : Streams) (requests : List Request) :
    w.run s requests =
      ⟨s.stdout ++ sentTo 1 (w.calls requests), s.stderr ++ sentTo 2 (w.calls requests)⟩ := by
  induction requests generalizing w s with
  | nil => simp [run, calls, sentTo]
  | cons r rest ih =>
    rw [run, calls, ih, serve_eq, sentTo_cons, sentTo_cons]
    by_cases out : (w.retarget r).fd = 1
    · simp [out]
    · by_cases err : (w.retarget r).fd = 2 <;> simp [out, err]

theorem session_served (w : StreamWriter) (requests : List Request) :
    List.Forall₂ (fun call answer => Served call.1 call.2 answer) (w.calls requests)
      (w.session requests) := by
  induction requests generalizing w with
  | nil => exact .nil
  | cons r rest ih => exact .cons (w.serve_served r) (ih (w.retarget r))

/-- The streams after a run have what each call has sent. -/
theorem run_session (w : StreamWriter) (s : Streams) (requests : List Request) :
    w.run s requests =
      ⟨s.stdout ++ (w.session requests).flatMap fun answer => answer.2.2.stdout,
        s.stderr ++ (w.session requests).flatMap fun answer => answer.2.2.stderr⟩ := by
  induction requests generalizing w s with
  | nil => simp [run, session]
  | cons r rest ih =>
    rw [run, session, ih, serve_eq, serve_eq]
    by_cases out : (w.retarget r).fd = 1
    · simp [out]
    · by_cases err : (w.retarget r).fd = 2 <;> simp [out, err]

theorem run_of_session (w : StreamWriter) (s : Streams) {xs ys : List Request}
    (h : (w.session xs).map Prod.snd = (w.session ys).map Prod.snd) : w.run s xs = w.run s ys := by
  have sent (part : Streams → List UInt8) :
      ((w.session xs).flatMap fun answer => part answer.2.2) =
        (w.session ys).flatMap fun answer => part answer.2.2 := by
    have joined := congrArg (List.flatMap fun answer => part answer.2) h
    rwa [List.flatMap_map, List.flatMap_map] at joined
  rw [run_session, run_session, sent Streams.stdout, sent Streams.stderr]

/-- The writer after some calls. -/
def after (w : StreamWriter) (requests : List Request) : StreamWriter := requests.foldl retarget w

theorem run_append (w : StreamWriter) (s : Streams) (xs ys : List Request) :
    w.run s (xs ++ ys) = (w.after xs).run (w.run s xs) ys := by
  induction xs generalizing w s with
  | nil => rfl
  | cons r rest ih => exact ih (w.retarget r) (w.serve r s).2

theorem session_append (w : StreamWriter) (xs ys : List Request) :
    w.session (xs ++ ys) = w.session xs ++ (w.after xs).session ys := by
  induction xs generalizing w with
  | nil => rfl
  | cons r rest ih =>
    rw [List.cons_append, session, session, ih, List.cons_append]
    rfl

/-- The calls after `r` as they are when `r` writes nothing. The descriptor that it has put into the
writer is there all the same. -/
def Request.leaveTo (r : Request) : List Request → List Request
  | [] => []
  | next :: rest => { next with fd? := next.fd?.or r.fd? } :: rest

theorem retarget_leaveTo (w : StreamWriter) (r next : Request) :
    w.retarget { next with fd? := next.fd?.or r.fd? } = (w.retarget r).retarget next := by
  unfold retarget
  cases next.fd? <;> rfl

theorem serve_retarget {w v : StreamWriter} {r : Request} {q : Request}
    (target : w.retarget q = v.retarget r) (payload : q.payload = r.payload) (s : Streams) :
    w.serve q s = v.serve r s := by
  rw [serve_eq, serve_eq, target, payload]

theorem run_leaveTo (w : StreamWriter) (s : Streams) (r : Request) (rest : List Request) :
    w.run s (r.leaveTo rest) = (w.retarget r).run s rest := by
  cases rest with
  | nil => rfl
  | cons next rest =>
    have target := w.retarget_leaveTo r next
    rw [Request.leaveTo, run, run, target, serve_retarget target rfl]

theorem session_leaveTo (w : StreamWriter) (r : Request) (rest : List Request) :
    w.session (r.leaveTo rest) = (w.retarget r).session rest := by
  cases rest with
  | nil => rfl
  | cons next rest =>
    have target := w.retarget_leaveTo r next
    simp only [Request.leaveTo, session, target, serve_retarget target]

/-- A call that fails might as well not have been made: neither the streams nor the answers to the other
calls tell that it was. -/
structure Traceless (w : StreamWriter) (s : Streams) (before : List Request) (r : Request)
    (later : List Request) : Prop where
  streams : w.run s (before ++ r :: later) = w.run s (before ++ r.leaveTo later)
  answers : ∃ refused,
    w.session (before ++ r :: later) =
      w.session before ++ refused :: (w.after (before ++ [r])).session later ∧
    w.session (before ++ r.leaveTo later) =
      w.session before ++ (w.after (before ++ [r])).session later

theorem traceless_of_refused (w : StreamWriter) (s : Streams) {before : List Request} {r : Request}
    (out : (w.after (before ++ [r])).fd ≠ 1) (err : (w.after (before ++ [r])).fd ≠ 2)
    (later : List Request) : w.Traceless s before r later := by
  have here : w.after (before ++ [r]) = (w.after before).retarget r := List.foldl_append
  rw [here] at out err
  constructor
  · rw [run_append, run_append, run_leaveTo, run, serve_eq, if_neg out, if_neg err]
  · rw [session_append, session_append, session_leaveTo, here]
    exact ⟨_, rfl, rfl⟩

/-- What a request comes to for the streams. -/
def Request.content (r : Request) : Option Int32 × List UInt8 := (r.fd?, r.payload.encoded)

theorem session_of_content (w : StreamWriter) {xs ys : List Request}
    (h : xs.map Request.content = ys.map Request.content) :
    (w.session xs).map Prod.snd = (w.session ys).map Prod.snd := by
  induction xs generalizing ys w with
  | nil => rw [List.map_eq_nil_iff.mp h.symm]
  | cons x xs ih =>
    obtain ⟨y, rest, rfl, same, others⟩ := List.map_eq_cons_iff.mp h.symm
    obtain ⟨fd, bytes⟩ := Prod.mk.inj same
    have target : w.retarget y = w.retarget x := by rw [retarget, retarget, fd]
    have sent : (w.serve y ⟨[], []⟩).2 = (w.serve x ⟨[], []⟩).2 := by
      rw [serve_eq, serve_eq, target, bytes]
      split
      · rfl
      · split <;> rfl
    rw [session, session, List.map_cons, List.map_cons, sent, target, ih _ others.symm]

/-- **A writer sends all of its bytes or none.** Each stream receives, in the order of the calls, the
bytes of those calls that find its descriptor in the writer. A call that finds another one fails, even
with nothing to write, and leaves no trace. It makes no difference to the streams whether a text or its
bytes are written. -/
theorem writes_all_or_nothing (w : StreamWriter) (s : Streams) (requests : List Request) :
    w.run s requests =
      ⟨s.stdout ++ sentTo 1 (w.calls requests), s.stderr ++ sentTo 2 (w.calls requests)⟩ ∧
    w.run s requests =
      ⟨s.stdout ++ (w.session requests).flatMap fun answer => answer.2.2.stdout,
        s.stderr ++ (w.session requests).flatMap fun answer => answer.2.2.stderr⟩ ∧
    List.Forall₂ (fun call answer => Served call.1 call.2 answer) (w.calls requests)
      (w.session requests) ∧
    (∀ before r later, (w.after (before ++ [r])).fd ≠ 1 → (w.after (before ++ [r])).fd ≠ 2 →
      w.Traceless s before r later) ∧
    ∀ others : List Request, others.map Request.content = requests.map Request.content →
      w.run s others = w.run s requests ∧
        (w.session others).map Prod.snd = (w.session requests).map Prod.snd := by
  refine ⟨w.run_eq s requests, w.run_session s requests, w.session_served requests, ?_, ?_⟩
  · intro before r later out err
    exact w.traceless_of_refused s out err later
  · intro others same
    have answers := w.session_of_content same
    exact ⟨w.run_of_session s answers, answers⟩

/-- Descriptors go wrong and right again, and an empty write goes wrong too. -/
def wandering : List Request :=
  [⟨none, .text "é"⟩, ⟨some (-1), .bytes []⟩, ⟨none, .text "lost"⟩, ⟨some 2, .bytes [0xff]⟩]

theorem writes_all_or_nothing_wandering :
    let w : StreamWriter := ⟨1⟩
    let s : Streams := ⟨[], []⟩
    let encoded : List Request := ⟨none, .bytes [0xc3, 0xa9]⟩ :: wandering.tail
    w.run s wandering = ⟨[0xc3, 0xa9], [0xff]⟩ ∧
      (w.session wandering).map Prod.fst =
        [.written, .failed (.noWriter (-1)), .textFailed, .written] ∧
      w.Traceless s (wandering.take 1) ⟨some (-1), .bytes []⟩ (wandering.drop 2) ∧
      encoded.map Request.content = wandering.map Request.content ∧
      w.run s encoded = ⟨[0xc3, 0xa9], [0xff]⟩ := by
  intro w s encoded
  obtain ⟨arrived, -, -, traceless, alike⟩ := writes_all_or_nothing w s wandering
  have streams : w.run s wandering = ⟨[0xc3, 0xa9], [0xff]⟩ := arrived.trans (by decide)
  have same : encoded.map Request.content = wandering.map Request.content := by decide
  exact ⟨streams, by decide, traceless _ _ _ (by decide) (by decide), same,
    (alike encoded same).1.trans streams⟩

end TracedMath.StreamWriter
