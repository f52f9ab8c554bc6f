import EventPipeline.Portfolio.RequestBodyLimit

/-!
# EventPipeline.Guarantees.RequestBody

The body limit is a limit of the whole body, however the server splits it.

The loop keeps a prefix of the body, so it stops early only where the whole body is too
large as well. With a declared length that is true, the early answer is the answer the loop
would come to.
-/

namespace EventPipeline.Guarantees

open EventPipeline.Python EventPipeline.Portfolio.RequestBodyLimit

/-! ### Splitting a body

A server may split a body anywhere, send empty pieces, and put messages of other types between.
All that the loop keeps of it is what it has put together. -/

/-- The messages carry a body: requests that announce more, with messages of other types
in between, and a final request, after which anything may follow. -/
inductive Carries : Bytes → List Message → Prop
  | final {chunk : Option Bytes} {more_body : Option Bool} {rest : List Message} :
      more_body.getD false = false → Carries (chunk.getD []) (.request chunk more_body :: rest)
  | more {chunk : Option Bytes} {body : Bytes} {messages : List Message} :
      Carries body messages →
        Carries (chunk.getD [] ++ body) (.request chunk (some true) :: messages)
  | other {body : Bytes} {messages : List Message} :
      Carries body messages → Carries body (.other :: messages)

/-- The loop decides by the length of what it has and what is still to come. -/
theorem readBody_carries {limit : Nat} {sofar body : Bytes} {messages : List Message}
    (h : Carries body messages) (hsofar : sofar.length ≤ limit) :
    readBody limit sofar messages =
      if (sofar ++ body).length ≤ limit then .complete (sofar ++ body) else .tooLarge := by
  induction h generalizing sofar with
  | @final chunk more_body rest hfinal =>
      simp only [readBody, Message.body, Message.moreBody, hfinal, Bool.false_eq_true, if_false]
      by_cases hlength : (sofar ++ chunk.getD []).length ≤ limit
      · rw [if_neg (not_lt.mpr hlength), if_pos hlength]
      · rw [if_pos (not_le.mp hlength), if_neg hlength]
  | @more chunk body messages _ ih =>
      simp only [readBody, Message.body, Message.moreBody, Option.getD_some, if_true]
      rw [← List.append_assoc]
      by_cases hlength : (sofar ++ chunk.getD []).length ≤ limit
      · rw [if_neg (not_lt.mpr hlength), ih hlength]
      · -- the chunk is too much already, and the whole body is longer
        have hwhole : ¬(sofar ++ chunk.getD [] ++ body).length ≤ limit := by
          rw [List.length_append]
          omega
        rw [if_pos (not_le.mp hlength), if_neg hwhole]
  | other _ ih => exact ih hsofar

/-- A client that goes away in between leaves the application without a body. -/
theorem readBody_disconnect {limit : Nat} {sofar : Bytes} {chunks : List Bytes}
    {rest : List Message} (hlength : (sofar ++ chunks.flatten).length ≤ limit) :
    readBody limit sofar (chunks.map (fun chunk => .request (some chunk) (some true))
      ++ .disconnect :: rest) = .disconnected (sofar ++ chunks.flatten) := by
  induction chunks generalizing sofar with
  | nil => simp [readBody]
  | cons chunk chunks ih =>
      rw [List.flatten_cons, ← List.append_assoc] at hlength
      have hchunk : ¬limit < (sofar ++ chunk).length := by
        rw [List.length_append] at hlength
        omega
      simp only [List.map_cons, List.cons_append, readBody, Message.body, Message.moreBody,
        Option.getD_some, if_true, if_neg hchunk]
      rw [ih hlength, List.flatten_cons, List.append_assoc]

/-! ### Declared lengths -/

/-- Every content-length header that can be read says the length. -/
def ConsistentLength (headers : List (Bytes × Bytes)) (length : Nat) : Prop :=
  ∀ header ∈ headers, isContentLength header.1 = true →
    ∀ declared ∈ contentLength header.2, declared = length

/-- A consistent header objects only to a body that is too large. -/
theorem declaresTooMuch_consistentLength {limit length : Nat} {headers : List (Bytes × Bytes)}
    (h : ConsistentLength headers length) (hlength : length ≤ limit) :
    declaresTooMuch limit headers = false := by
  induction headers with
  | nil => rfl
  | cons header headers ih =>
      obtain ⟨name, raw_value⟩ := header
      obtain ⟨hfirst, hrest⟩ := List.forall_mem_cons.mp h
      rw [declaresTooMuch]
      split_ifs with hname
      · cases hdeclared : contentLength raw_value with
        | none => rfl
        | some declared =>
            have hequal : declared = length := hfirst hname declared hdeclared
            simp only [hequal, ih hrest, Bool.or_false, decide_eq_false_iff_not]
            omega
      · exact ih hrest

/-! ### The answers of the channel -/

/-- The application reads the body once, complete, and then a disconnect. -/
theorem replay_answers (body : Bytes) (n : Nat) :
    (Replay.mk body false false).answers (n + 1) =
      .request (some body) (some false) :: List.replicate n .disconnect := by
  have hdelivered : ∀ n, (Replay.mk body false true).answers n =
      List.replicate n .disconnect := by
    intro n
    induction n with
    | zero => rfl
    | succ n ih =>
        rw [List.replicate_succ, ← ih]
        rfl
  rw [← hdelivered n]
  rfl

/-! ### The limit -/

/-- However a body is split, the middleware looks at its length and at the declared
lengths: with consistent headers the application is called with exactly the body if it is
within the limit, and otherwise the answer is 413.

Reading depends on the chunks only through their sum (`readBody_carries`, by induction over the
messages), so the call is one comparison with the whole length. Consistent headers make the check
of the declared lengths the same comparison (`declaresTooMuch_consistentLength`). -/
theorem requestBodyLimit_chunking (middleware : Middleware) (scope : Scope) (body : Bytes)
    (messages : List Message) (hhttp : scope.isHttp = true) (hcarries : Carries body messages) :
    (middleware.call scope messages =
      if declaresTooMuch middleware.max_body_bytes scope.headers = false ∧
          body.length ≤ middleware.max_body_bytes then .called ⟨body, false, false⟩
      else tooLargeResponse) ∧
    (ConsistentLength scope.headers body.length → middleware.call scope messages =
      if body.length ≤ middleware.max_body_bytes then .called ⟨body, false, false⟩
      else tooLargeResponse) ∧
    ∀ n, (Replay.mk body false false).answers (n + 1) =
      .request (some body) (some false) :: List.replicate n .disconnect := by
  have hcall : middleware.call scope messages =
      if declaresTooMuch middleware.max_body_bytes scope.headers = false ∧
          body.length ≤ middleware.max_body_bytes then .called ⟨body, false, false⟩
      else tooLargeResponse := by
    rw [Middleware.call, hhttp, if_neg (by simp), readBody_carries hcarries (Nat.zero_le _),
      List.nil_append]
    cases declaresTooMuch middleware.max_body_bytes scope.headers with
    | true => simp
    | false =>
        by_cases hlength : body.length ≤ middleware.max_body_bytes
        · simp [hlength]
        · simp [hlength]
  refine ⟨hcall, fun hconsistent => ?_, replay_answers body⟩
  rw [hcall]
  by_cases hlength : body.length ≤ middleware.max_body_bytes
  · rw [if_pos ⟨declaresTooMuch_consistentLength hconsistent hlength, hlength⟩, if_pos hlength]
  · rw [if_neg fun h => hlength h.2, if_neg hlength]

/-- Three bytes in three messages, one of them empty, with their length declared. -/
theorem requestBodyLimit_chunking_sample :
    (Middleware.mk 3 (by decide)).call
      ⟨true, [("Content-Length".toList.map fun c => UInt8.ofNat c.toNat, [51])]⟩
      [.request (some [1]) (some true), .request none (some true), .request (some [2, 3]) none] =
        .called ⟨[1, 2, 3], false, false⟩ := by
  have hcarries : Carries [1, 2, 3] [.request (some [1]) (some true),
      .request none (some true), .request (some [2, 3]) none] :=
    @Carries.more (some [1]) _ _ (@Carries.more none _ _ (@Carries.final (some [2, 3]) none [] rfl))
  refine ((requestBodyLimit_chunking _ _ _ _ rfl hcarries).2.1 ?_).trans (by decide)
  intro header hheader _ declared hdeclared
  obtain rfl := List.mem_singleton.mp hheader
  exact Option.some.inj (hdeclared.symm.trans (by decide +kernel))

end EventPipeline.Guarantees
