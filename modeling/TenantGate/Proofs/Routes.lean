import TenantGate.Proofs.Layers
import TenantGate.Service.Site

/-!
# Which route answers

A pattern of fixed segments fits one path and no other (`Route.fits_iff_of_fixed`). What is seen of
the answer of a site is what is seen of the reply of the route that fits, without a body where the
method asks for none (`Site.seen_of_route`), and of the fallback where no route fits
(`Site.seen_of_fallback`). `Site.handlerFor` is the handler of either case, and an answer takes its
status and all fields but two from the reply of it (`Site.status_answer`, `Site.first?_answer`).
`Blind` handlers look at nothing but the method, and stay so inside the transport
(`seen_transport_of_blind`).
-/

set_option autoImplicit false

namespace TenantGate.Service

open TenantGate.Http TenantGate.Text

/-! ## Paths -/

theorem segmentsFit_fixed_iff {texts : List String} {parts : List (List Char)} :
    segmentsFit (texts.map .fixed) parts = true ↔ parts = texts.map String.toList := by
  induction texts generalizing parts with
  | nil => cases parts <;> simp [segmentsFit]
  | cons text texts ih =>
    cases parts with
    | nil => simp [segmentsFit]
    | cons part parts =>
      rw [List.map_cons, segmentsFit, Bool.and_eq_true, ih, Segment.fits, beq_iff_eq, List.map_cons,
        List.cons.injEq, eq_comm]

/-- Paths with the same segments are the same. -/
theorem eq_of_segmentsOf {path path' : List Char} {parts : List (List Char)}
    (h : segmentsOf path = some parts) (h' : segmentsOf path' = some parts) : path = path' := by
  have hslash : ∀ {cs : List Char}, segmentsOf cs = some parts →
      cs = '/' :: ['/'].intercalate parts := by
    intro cs hcs
    unfold segmentsOf at hcs
    split at hcs
    · next rest =>
      cases hcs
      rw [intercalate_pieces]
    · cases hcs
  rw [hslash h, hslash h']

/-- **A pattern of fixed segments fits one path.** -/
theorem Route.fits_iff_of_fixed {r : Route} {path : String} {texts : List String}
    (hpattern : r.pattern = texts.map .fixed)
    (hpath : segmentsOf path.toList = some (texts.map String.toList)) (other : String) :
    r.fits other.toList = true ↔ other = path := by
  unfold fits
  constructor
  · intro h
    split at h
    · next parts hparts =>
      rw [hpattern, segmentsFit_fixed_iff] at h
      rw [h] at hparts
      exact String.toList_injective (eq_of_segmentsOf hparts hpath)
    · cases h
  · rintro rfl
    rw [hpath, hpattern]
    exact segmentsFit_fixed_iff.2 rfl

/-! ## Answers -/

/-- The same without a body, where the method asks for none. -/
def Seen.forMethod (method : String) (s : Seen) : Seen :=
  { s with body := if method = "HEAD" then "" else s.body }

namespace Site

/-- What is seen of the answer to a call. -/
def seen (s : Site) (call : Call) : Seen := Seen.of (s.answer call).1 (s.answer call).2

theorem of_complete (methods : List String) (method : String) (r : Reply) :
    Seen.of (complete methods method r.response) r.reports = r.seen.forMethod method := by
  simp only [Seen.of, complete, Seen.forMethod, Reply.seen, beq_iff_eq]

theorem seen_of_route {s : Site} {call : Call} {route : Route}
    (h : s.routes.find? (fun r => r.fits call.request.target.routePath.toList) = some route) :
    s.seen call = (route.handler call).seen.forMethod call.request.method := by
  simp only [seen, answer, h]
  exact of_complete route.methods _ _

theorem seen_of_fallback {s : Site} {call : Call}
    (h : s.routes.find? (fun r => r.fits call.request.target.routePath.toList) = none) :
    s.seen call =
      if (segmentsOf call.request.target.routePath.toList).isSome then (s.fallback call).seen
      else (s.fallback call).seen.forMethod call.request.method := by
  simp only [seen, answer, h]
  split
  · rfl
  · exact of_complete [call.request.method] _ _

/-! ## The handler of a path -/

/-- What replies to calls of a path. -/
def handlerFor (s : Site) (path : String) : Handler :=
  match s.routes.find? fun r => r.fits path.toList with
  | some route => route.handler
  | none => s.fallback

/-- A layer around a site is around the handler of every path. -/
theorem handlerFor_layered (layer : Handler → Handler) (s : Site) (path : String) :
    (s.layered layer).handlerFor path = layer (s.handlerFor path) := by
  have hfits : ((fun r : Route => r.fits path.toList) ∘
      fun r : Route => { r with handler := layer r.handler }) = fun r => r.fits path.toList :=
    rfl
  simp only [handlerFor, layered, List.find?_map, hfits]
  cases s.routes.find? fun r => r.fits path.toList with
  | none => rfl
  | some route => rfl

/-- Completing a response changes two of its fields only. -/
theorem first?_complete {name : String} (hallow : name ≠ "allow")
    (hlength : name ≠ "content-length") (methods : List String) (method : String) (r : Response) :
    (complete methods method r).fields.first? name = r.fields.first? name := by
  simp only [complete]
  rw [Fields.first?_addMissing_of_ne hlength]
  split
  · rfl
  · exact Fields.first?_addMissing_of_ne hallow _ _

/-- The response of the handler is given as it is or completed. -/
theorem answer_cases (s : Site) (call : Call) :
    (s.answer call).1 = (s.handlerFor call.request.target.routePath call).response ∨
      ∃ methods, (s.answer call).1 =
        complete methods call.request.method
          (s.handlerFor call.request.target.routePath call).response := by
  cases hfind : s.routes.find? fun r => r.fits call.request.target.routePath.toList with
  | some route =>
    simp only [answer, handlerFor, hfind]
    exact .inr ⟨route.methods, rfl⟩
  | none =>
    simp only [answer, handlerFor, hfind]
    -- the response of the fallback is completed only where the target is no path
    split
    · exact .inl rfl
    · exact .inr ⟨[call.request.method], rfl⟩

variable {s : Site} {call : Call}

theorem first?_answer {name : String} (hallow : name ≠ "allow")
    (hlength : name ≠ "content-length") :
    (s.answer call).1.fields.first? name =
      (s.handlerFor call.request.target.routePath call).response.fields.first? name := by
  rcases answer_cases s call with h | ⟨methods, h⟩
  · rw [h]
  · rw [h, first?_complete hallow hlength]

theorem status_answer :
    (s.answer call).1.status =
      (s.handlerFor call.request.target.routePath call).response.status := by
  rcases answer_cases s call with h | ⟨methods, h⟩
  · rw [h]
  · rw [h, complete]

/-- What is seen of an answer is the reply of the handler, unless the method asks for no body. -/
theorem seen_of_method (hmethod : call.request.method ≠ "HEAD") :
    s.seen call = (s.handlerFor call.request.target.routePath call).seen := by
  have hbody : ∀ seen : Seen, seen.forMethod call.request.method = seen := by
    intro seen
    rw [Seen.forMethod, if_neg hmethod]
  cases hfind : s.routes.find? fun r => r.fits call.request.target.routePath.toList with
  | some route =>
    rw [seen_of_route hfind, hbody, handlerFor, hfind]
  | none =>
    rw [seen_of_fallback hfind, hbody, ite_self, handlerFor, hfind]

end Site

/-! ## Methods -/

/-- The method whose handler serves a method. -/
def servingMethod (method : String) : String := if method == "HEAD" then "GET" else method

theorem byMethod_eq (handlers : List (String × Handler)) (call : Call) :
    Route.byMethod handlers call =
      match handlers.find? fun s => s.1 == servingMethod call.request.method with
      | some served => served.2 call
      | none => Reply.respond (Response.bare 405) :=
  rfl

/-! ## Handlers that look at the method only -/

/-- A handler that replies at once, and alike to calls of one method. -/
structure Blind (inner : Handler) : Prop where
  prompt (call : Call) : (inner call).elapsed = 0
  seen (a b : Call) : a.request.method = b.request.method → (inner a).seen = (inner b).seen

theorem blind_respond (r : Response) : Blind fun _ => Reply.respond r where
  prompt _ := rfl
  seen _ _ _ := rfl

theorem blind_byMethod {handlers : List (String × Handler)}
    (h : ∀ served ∈ handlers, Blind served.2) : Blind (Route.byMethod handlers) where
  prompt call := by
    rw [byMethod_eq]
    cases hfind : handlers.find? fun s => s.1 == servingMethod call.request.method with
    | none => rfl
    | some served => exact (h served (List.mem_of_find?_eq_some hfind)).prompt call
  seen a b hmethod := by
    rw [byMethod_eq, byMethod_eq, hmethod]
    cases hfind : handlers.find? fun s => s.1 == servingMethod b.request.method with
    | none => rfl
    | some served => exact (h served (List.mem_of_find?_eq_some hfind)).seen a b hmethod

/-- **Behind the transport, a blind handler is seen alike by calls of one method that announce
bodies of one size.** -/
theorem seen_transport_of_blind {inner : Handler} (h : Blind inner) {limits limits' : Limits}
    {a b : Call} (hlimit : limits.bodyLimit = limits'.bodyLimit)
    (hmethod : a.request.method = b.request.method)
    (hsize : announcedSize? a.request.fields = announcedSize? b.request.fields) :
    (transport limits inner a).seen = (transport limits' inner b).seen := by
  have hmore : AnnouncesMore limits.bodyLimit a.request.fields ↔
      AnnouncesMore limits'.bodyLimit b.request.fields := by
    rw [AnnouncesMore, AnnouncesMore, hsize, hlimit]
  by_cases hover : AnnouncesMore limits.bodyLimit a.request.fields
  · rw [seen_transport_of_announcesMore hover, seen_transport_of_announcesMore (hmore.1 hover)]
  · rw [seen_transport_of_within hover (h.prompt _),
      seen_transport_of_within (fun hb => hover (hmore.2 hb)) (h.prompt _)]
    exact h.seen _ _ hmethod

end TenantGate.Service
