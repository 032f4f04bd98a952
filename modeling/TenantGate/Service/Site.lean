import TenantGate.Service.Layer
import TenantGate.Text.Pieces

/-!
# Routes

A site is a list of routes and a fallback for paths that none of them matches. A path is matched
segment by segment as it is written. `Site.layered` puts a layer around all handlers, `Site.mounted`
puts a site behind a path, and `Site.answer` finds the handler of a call and completes its response:
a routed response has a length, names the allowed methods where the method is not among them, and
has no body where the method asks for none.
-/

set_option autoImplicit false

namespace TenantGate.Service

open TenantGate.Http TenantGate.Text

/-! ## Routes -/

/-- A segment of a path: a fixed one, or any that is not empty. -/
inductive Segment where
  | fixed (text : String)
  | anything
deriving DecidableEq, Repr

/-- The segment of a path matches. -/
def Segment.fits : Segment → List Char → Bool
  | fixed text, cs => text.toList == cs
  | anything, cs => !cs.isEmpty

/-- The segments of a path match one by one. -/
def segmentsFit : List Segment → List (List Char) → Bool
  | [], [] => true
  | s :: ss, p :: ps => s.fits p && segmentsFit ss ps
  | _, _ => false

/-- The segments of a path behind its first slash. -/
def segmentsOf (path : List Char) : Option (List (List Char)) :=
  match path with
  | '/' :: cs => some (pieces '/' cs)
  | _ => none

/-- A route: the methods it serves, and what answers calls of any method. -/
structure Route where
  pattern : List Segment
  methods : List String
  handler : Handler

namespace Route

/-- The path belongs to the route. -/
def fits (r : Route) (path : List Char) : Bool :=
  match segmentsOf path with
  | some segments => segmentsFit r.pattern segments
  | none => false

/-- A handler by method. `GET` serves `HEAD` too, and other methods are answered with 405. -/
def byMethod (handlers : List (String × Handler)) : Handler := fun call =>
  let method := if call.request.method == "HEAD" then "GET" else call.request.method
  match handlers.find? fun s => s.1 == method with
  | some s => s.2 call
  | none => Reply.respond (Response.bare 405)

/-- The methods that are served, `HEAD` behind `GET`. -/
def servedMethods (handlers : List (String × Handler)) : List String :=
  handlers.flatMap fun s => if s.1 == "GET" then ["GET", "HEAD"] else [s.1]

/-- A route that serves some methods. -/
def new (pattern : List Segment) (handlers : List (String × Handler)) : Route :=
  ⟨pattern, servedMethods handlers, byMethod handlers⟩

end Route

/-! ## Sites -/

/-- Routes, and the handler for all other paths. -/
structure Site where
  routes : List Route
  fallback : Handler

namespace Site

/-- The handler for paths that do not exist. -/
def nowhere : Handler := fun _ => Reply.respond (Response.bare 404)

/-- A site of routes. -/
def ofRoutes (routes : List Route) : Site := ⟨routes, nowhere⟩

/-- The site with a layer around every handler, the fallback included. -/
def layered (layer : Handler → Handler) (s : Site) : Site :=
  ⟨s.routes.map fun r => { r with handler := layer r.handler }, layer s.fallback⟩

/-- The site with more routes. -/
def withRoutes (routes : List Route) (s : Site) : Site := { s with routes := s.routes ++ routes }

/-- A call as a mounted handler sees it: the mount point is cut from its path. -/
def unmounted (mount : String) (call : Call) : Call :=
  let target := call.request.target.dropMount mount
  { call with request := { call.request with target := target } }

/-- The segments of a mount point. -/
def mountSegments (mount : String) : List Segment :=
  ((segmentsOf mount.toList).getD []).map fun cs => .fixed (String.ofList cs)

/-- The routes of a site behind a mount point. -/
def mounted (mount : String) (s : Site) : List Route :=
  s.routes.map fun r =>
    { r with
      pattern := mountSegments mount ++ r.pattern
      handler := fun call => r.handler (unmounted mount call) }

/-- Complete the response of a route. -/
def complete (methods : List String) (method : String) (r : Response) : Response :=
  let allowed :=
    if methods.contains method then r.fields
    else r.fields.addMissing "allow" (octets (",".intercalate methods))
  let fields := allowed.addMissing "content-length" (octets (toString r.body.utf8ByteSize))
  ⟨r.status, fields, if method == "HEAD" then "" else r.body⟩

/-- Complete the response to a target that is no path, for which there are no methods to name. -/
def completeBare (method : String) (r : Response) : Response := complete [method] method r

/-- The response to a call, with its reports. The response of the fallback to a path is given as it
is. -/
def answer (s : Site) (call : Call) : Response × List Report :=
  let path := call.request.target.routePath.toList
  let method := call.request.method
  match s.routes.find? fun r => r.fits path with
  | some route =>
      let reply := route.handler call
      (complete route.methods method reply.response, reply.reports)
  | none =>
      let reply := s.fallback call
      ((if (segmentsOf path).isSome then reply.response else completeBare method reply.response),
        reply.reports)

end Site

end TenantGate.Service
