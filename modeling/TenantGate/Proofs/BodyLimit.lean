import TenantGate.Proofs.RequestIds

/-!
# The limit on request bodies

A body is read within a limit exactly if its octets are no more than the limit, however it is cut
into chunks (`Http.Body.readWithin_eq`). Two limits meet where a handler takes a body as text: the
one of the settings, which the transport puts on the body, and `textLimit`, which the handler brings
itself. The main theorem, `least_limit_is_effective`, says that the smaller one decides: up to it
the handler gets the whole text, and beyond it the answer is a refusal in which the handler has no
part. So the limit of the settings is the effective one as long as it is not above `textLimit`
(`larger_limit_is_not_effective` shows what a larger one does). A body that is announced to be
larger than the limit of the settings is refused whatever the site is.
-/

set_option autoImplicit false

namespace TenantGate

open TenantGate.Http TenantGate.Text

/-! ## Reading within a limit -/

namespace Http.Body

/-- **Only the total size of the chunks counts.** -/
theorem readWithin_eq (limit : Nat) (chunks : List (List UInt8)) :
    readWithin limit chunks =
      if chunks.flatten.length ≤ limit then .ok chunks.flatten else .error .tooLarge := by
  induction chunks generalizing limit with
  | nil => rw [readWithin, List.flatten_nil, List.length_nil, if_pos (Nat.zero_le limit)]
  | cons c cs ih =>
    rw [readWithin, List.flatten_cons, List.length_append]
    by_cases hc : limit < c.length
    · rw [if_pos hc, if_neg (by omega)]
    · rw [if_neg hc, ih]
      -- what is left for the other chunks is the limit without this one
      by_cases hcs : cs.flatten.length ≤ limit - c.length
      · rw [if_pos hcs, if_pos (by omega)]
        rfl
      · rw [if_neg hcs, if_neg (by omega)]
        rfl

variable {b : Body} {limit : Nat}

theorem read_of_within (hlimit : b.limit = some limit) (h : b.chunks.flatten.length ≤ limit) :
    b.read = .ok b.chunks.flatten := by
  simp only [read, hlimit, readWithin_eq, if_pos h]

theorem read_of_beyond (hlimit : b.limit = some limit) (h : limit < b.chunks.flatten.length) :
    b.read = .error .tooLarge := by
  simp only [read, hlimit, readWithin_eq, if_neg (Nat.not_le.2 h)]

/-- A text is read back, even if a character of it is cut. -/
theorem readText_of_within {text : String} (hlimit : b.limit = some limit)
    (htext : b.chunks.flatten = octets text) (h : (octets text).length ≤ limit) :
    b.readText = .ok text := by
  rw [← htext] at h
  rw [readText, read_of_within hlimit h, Except.ok_bind, htext, ofOctets?_octets]

theorem readText_of_beyond (hlimit : b.limit = some limit)
    (h : limit < b.chunks.flatten.length) : b.readText = .error .tooLarge := by
  rw [readText, read_of_beyond hlimit h, Except.error_bind]

end Http.Body

namespace Service

/-! ## Handlers that take a body as text -/

/-- The answer to a text that is too large. -/
def textRefusal : Response :=
  Response.text 413 "Failed to buffer the request body: length limit exceeded"

/-- The limit of a body that a handler takes as text, behind a limit of the transport. -/
def textLimitUnder (bodyLimit : Nat) : Nat := min bodyLimit textLimit

variable {limits : Limits} {inner : String → Handler} {call : Call}

/-- A body that is not announced comes with the limit of the transport. -/
theorem limit_limited_passed (hsize : call.request.fields.first? "content-length" = none)
    (hbody : call.request.body.limit = none) :
    ((limits.passed call).request.body.limited textLimit).limit =
      some (textLimitUnder limits.bodyLimit) := by
  -- the identifier that the transport adds announces nothing
  have hnone : announcedSize? (limits.passed call).request.fields = none := by
    rw [announcedSize?, Limits.passed, Fields.first?_addMissing_of_ne (by decide), hsize]
    rfl
  have hpassed : (limits.passed call).request.body =
      call.request.body.limited (readableSize limits.bodyLimit
        (limits.passed call).request.fields) :=
    rfl
  rw [hpassed, readableSize, hnone, Body.limited, Body.limited, hbody]
  rfl

/-- A text within both limits is what the inner handler gets. -/
theorem takingText_of_within {text : String}
    (hsize : call.request.fields.first? "content-length" = none)
    (hbody : call.request.body.limit = none)
    (htext : call.request.body.chunks.flatten = octets text)
    (h : (octets text).length ≤ textLimitUnder limits.bodyLimit) :
    takingText inner (limits.passed call) = inner text (limits.passed call) := by
  rw [takingText, Body.readText_of_within (limit_limited_passed hsize hbody) htext h]

/-- A text beyond one of the limits does not reach the inner handler. -/
theorem takingText_of_beyond (hsize : call.request.fields.first? "content-length" = none)
    (hbody : call.request.body.limit = none)
    (h : textLimitUnder limits.bodyLimit < call.request.body.chunks.flatten.length) :
    takingText inner (limits.passed call) = Reply.respond textRefusal := by
  rw [takingText, Body.readText_of_beyond (limit_limited_passed hsize hbody) h]
  rfl

/-! ## Posting a text -/

/-- A site hands the texts that are posted to a path on to a handler. -/
def Site.HandsOn (site : Site) (inner : String → Handler) : Prop :=
  site.handlerFor "/echo" = Route.byMethod [("POST", takingText inner)]

/-- A request posts octets, cut anywhere into chunks and of a size that is not announced. -/
structure Posts (q : Request) (bs : List UInt8) : Prop where
  method : q.method = "POST"
  path : q.target.routePath = "/echo"
  unannounced : q.fields.first? "content-length" = none
  unlimited : q.body.limit = none
  chunks : q.body.chunks.flatten = bs

section Posted

variable {site : Site} {q : Request} {bs : List UInt8} {context : Option Context}

/-- The handler of a posted text, inside the transport. -/
theorem handlerFor_passed (hsite : site.HandsOn inner) (hq : Posts q bs) :
    site.handlerFor q.target.routePath (limits.passed ⟨q, context⟩) =
      takingText inner (limits.passed ⟨q, context⟩) := by
  have hserving : servingMethod (limits.passed ⟨q, context⟩).request.method = "POST" := by
    show servingMethod q.method = "POST"
    rw [hq.method]
    rfl
  rw [hq.path, hsite, byMethod_eq, hserving]
  rfl

/-- What is seen of a posted text is the reply of its handler, if this one replies at once. -/
theorem seen_of_posts (hsite : site.HandsOn inner) (hq : Posts q bs)
    (hprompt : (takingText inner (limits.passed ⟨q, context⟩)).elapsed = 0) :
    (site.layered (transport limits)).seen ⟨q, context⟩ =
      (takingText inner (limits.passed ⟨q, context⟩)).seen := by
  have hmethod : q.method ≠ "HEAD" := by
    rw [hq.method]
    decide
  have hwithin : ¬ AnnouncesMore limits.bodyLimit q.fields := by
    rintro ⟨size, hsize, -⟩
    rw [announcedSize?, hq.unannounced] at hsize
    cases hsize
  rw [Site.seen_of_method hmethod, Site.handlerFor_layered]
  rw [← handlerFor_passed hsite hq] at hprompt ⊢
  exact seen_transport_of_within hwithin hprompt

/-- A posted text beyond the smaller limit is refused, whatever handler it is for. -/
theorem seen_of_posts_beyond (hsite : site.HandsOn inner) (hq : Posts q bs)
    (h : textLimitUnder limits.bodyLimit < bs.length) :
    (site.layered (transport limits)).seen ⟨q, context⟩ =
      ⟨textRefusal.status, textRefusal.body, []⟩ := by
  rw [← hq.chunks] at h
  have hrefused : takingText inner (limits.passed ⟨q, context⟩) = Reply.respond textRefusal :=
    takingText_of_beyond hq.unannounced hq.unlimited h
  rw [seen_of_posts hsite hq (by rw [hrefused]; rfl), hrefused]
  rfl

end Posted

/-- **The smaller limit on a body is the effective one.** Take any settings and any site inside the
transport. If the site hands posted texts on to a handler, and a text is posted in any chunks and
without an announced size, then a text beyond the limit of the settings or beyond `textLimit` is
refused with 413, whatever the handler does, and any other text is what the handler gets, so that a
handler which answers with the text gives it back with 200. A request of any path and method that
announces a body beyond the limit of the settings is refused with 413, whatever stands behind the
transport. -/
theorem least_limit_is_effective (s : Settings) (freshId : String) (site : Site) (q : Request) :
    (∀ (inner : String → Handler) (text : String), site.HandsOn inner → Posts q (octets text) →
        (min s.bodyLimit textLimit < (octets text).length →
          (site.layered (transport (limitsOf s freshId))).seen ⟨q, none⟩ =
            ⟨413, "Failed to buffer the request body: length limit exceeded", []⟩) ∧
        ((octets text).length ≤ min s.bodyLimit textLimit →
          site.handlerFor "/echo" ((limitsOf s freshId).passed ⟨q, none⟩) =
              inner text ((limitsOf s freshId).passed ⟨q, none⟩) ∧
            ((∀ call, inner text call = Reply.respond (Response.text 200 text)) →
              (site.layered (transport (limitsOf s freshId))).seen ⟨q, none⟩ =
                ⟨200, text, []⟩))) ∧
      ∀ size, announcedSize? q.fields = some size → s.bodyLimit < size →
        ((site.layered (transport (limitsOf s freshId))).answer ⟨q, none⟩).1.status = 413 ∧
          ∀ inner inner', transport (limitsOf s freshId) inner ⟨q, none⟩ =
            transport (limitsOf s freshId) inner' ⟨q, none⟩ := by
  constructor
  · intro inner text hsite hq
    constructor
    · intro hbeyond
      exact seen_of_posts_beyond hsite hq hbeyond
    · intro hwithin
      have hgets : takingText inner ((limitsOf s freshId).passed ⟨q, none⟩) =
          inner text ((limitsOf s freshId).passed ⟨q, none⟩) :=
        takingText_of_within hq.unannounced hq.unlimited hq.chunks hwithin
      refine ⟨?_, ?_⟩
      · rw [← hgets, ← handlerFor_passed hsite hq, hq.path]
      · intro hecho
        rw [hecho] at hgets
        rw [seen_of_posts hsite hq (by rw [hgets]; rfl), hgets]
        rfl
  · intro size hsize hlarger
    have hmore : AnnouncesMore (limitsOf s freshId).bodyLimit q.fields := ⟨size, hsize, hlarger⟩
    constructor
    · rw [Site.status_answer, Site.handlerFor_layered, transport_of_announcesMore hmore]
      rfl
    · intro inner inner'
      rw [transport_of_announcesMore hmore, transport_of_announcesMore hmore]

/-- Settings with a body limit. -/
def limitedSettings (bodyLimit : Nat) : Settings := { openSettings with bodyLimit := bodyLimit }

/-- A post of octets in chunks. -/
def posted (chunks : List (List UInt8)) (fields : Fields) : Request :=
  { method := "POST"
    target := ⟨none, none, "/echo", none⟩
    fields := fields
    body := ⟨chunks, none⟩ }

theorem posts_posted (chunks : List (List UInt8)) :
    Posts (posted chunks .empty) chunks.flatten :=
  ⟨rfl, rfl, rfl, rfl, rfl⟩

/-- The small routes echo the texts that are posted. -/
theorem handsOn_bareTransportSite :
    bareTransportSite.HandsOn fun text _ => Reply.respond (Response.text 200 text) :=
  rfl

/-- A character of two octets that is cut in two is echoed under a limit of two octets and refused
under one of a single octet, and a body of seven octets need not come if six are the limit. -/
theorem least_limit_is_effective_cut :
    (bareTransportSite.layered (transport (limitsOf (limitedSettings 2) "a"))).seen
        ⟨posted [[0xC3], [0xA9]] .empty, none⟩ = ⟨200, "é", []⟩ ∧
      (bareTransportSite.layered (transport (limitsOf (limitedSettings 1) "a"))).seen
        ⟨posted [[0xC3], [0xA9]] .empty, none⟩ =
          ⟨413, "Failed to buffer the request body: length limit exceeded", []⟩ ∧
      ((bareTransportSite.layered (transport (limitsOf (limitedSettings 6) "a"))).answer
        ⟨posted [] ⟨[("content-length", octets "7")]⟩, none⟩).1.status = 413 := by
  have hq : Posts (posted [[0xC3], [0xA9]] .empty) (octets "é") := posts_posted _
  obtain ⟨hroomy, -⟩ := least_limit_is_effective (limitedSettings 2) "a" bareTransportSite
    (posted [[0xC3], [0xA9]] .empty)
  obtain ⟨htight, -⟩ := least_limit_is_effective (limitedSettings 1) "a" bareTransportSite
    (posted [[0xC3], [0xA9]] .empty)
  obtain ⟨-, hannounced⟩ := least_limit_is_effective (limitedSettings 6) "a" bareTransportSite
    (posted [] ⟨[("content-length", octets "7")]⟩)
  refine ⟨?_, ?_, ?_⟩
  · exact (((hroomy _ "é" handsOn_bareTransportSite hq).2 (by decide)).2 fun _ => rfl)
  · exact (htight _ "é" handsOn_bareTransportSite hq).1 (by decide)
  · exact (hannounced 7 (by decide) (by decide)).1

/-- A text that is one octet longer than `textLimit`. -/
def longText : String :=
  String.ofList ((List.replicate (textLimit + 1) (0x61 : UInt8)).map fun b => Char.ofNat b.toNat)

theorem octets_longText : octets longText = List.replicate (textLimit + 1) 0x61 := by
  refine octets_ofAscii fun b hb => ?_
  rw [List.eq_of_mem_replicate hb]
  decide

/-- **A larger limit is not effective.** Three mebibytes are set as the limit, and a text of a
little more than two is refused all the same. -/
theorem larger_limit_is_not_effective :
    Posts (posted [octets longText] .empty) (octets longText) ∧
      (octets longText).length ≤ (limitedSettings (3 * 1024 * 1024)).bodyLimit ∧
      (transportSite (limitedSettings (3 * 1024 * 1024)) "a").seen
          ⟨posted [octets longText] .empty, none⟩ ≠ ⟨200, longText, []⟩ := by
  have hq : Posts (posted [octets longText] .empty) (octets longText) := by
    have hposts := posts_posted [octets longText]
    rwa [List.flatten_singleton] at hposts
  -- the text is too long to evaluate the answer, so its length has to be enough
  have hlength : (octets longText).length = textLimit + 1 := by
    rw [octets_longText, List.length_replicate]
  refine ⟨hq, ?_, ?_⟩
  · rw [hlength]
    decide
  · have hbeyond : textLimitUnder (3 * 1024 * 1024) < (octets longText).length := by
      rw [hlength]
      decide
    rw [transportSite_eq_layered, seen_of_posts_beyond handsOn_bareTransportSite hq hbeyond]
    intro h
    have hstatus := congrArg Seen.status h
    revert hstatus
    decide

end Service

end TenantGate
