import LoadTest.Coordinator
/-!
# The status page

What the coordinator answers over HTTP: that it is there, its state, and the end of a test.
Every answer may be read by pages of any origin, and asking what is allowed never fails.
-/

namespace LoadTest

/-- An answer over HTTP. -/
structure HttpResponse where
  status : Nat
  /-- The body, if there is one; it is JSON. -/
  body : Option Json := none
  /-- Whether the head says that the body is JSON. -/
  isJson : Bool := false
  deriving Repr

namespace HttpResponse

/-- An answer with a JSON body. -/
def json (status : Nat) (body : Json) : HttpResponse := ⟨status, some body, true⟩

/-- An answer without a body. -/
def bare (status : Nat) : HttpResponse := ⟨status, none, false⟩

/-- An answer of which only the head is sent. -/
def headOnly (r : HttpResponse) : HttpResponse := { r with body := none }

end HttpResponse

namespace StatusPage

/-- What a page shows or does. -/
inductive Page where
  | health
  | status
  | testStop
  deriving DecidableEq, Repr

/-- The page at a path; what follows a question mark does not matter. -/
def page? (path : String) : Option Page :=
  let path := String.ofList (path.toList.takeWhile (· ≠ '?'))
  if path = "/health" then some .health
  else if path = "/status" then some .status
  else if path = "/test-stop" then some .testStop
  else none

/-- The coordinator is there. -/
def health : HttpResponse := .json 200 (.object [("status", .str "ok")])

/-- The state of the coordinator, and the number of connected workers. -/
def status (c : Coordinator) (workers : Nat) : HttpResponse :=
  .json 200 (.object [("status", .str "ok"), ("workers", .ofUInt64 (UInt64.ofNat workers)),
    ("coordinator", c.status.toJson)])

/-- What the end of a test came to. -/
def stopped : Except Error Unit → HttpResponse
  | .ok () => .json 200 (.object [("success", .bool true)])
  | .error e => .json 500 (.object [("success", .bool false), ("error", .str e.message)])

/-- Answer a request. -/
def respond (c : Coordinator) (folder : Persistence.Folder) (a : Persistence.Attempt)
    (workers : Nat) (method path : String) : HttpResponse × Coordinator × Persistence.Folder :=
  if method = "OPTIONS" then (.bare 200, c, folder)
  else
    match page? path with
    | none => (.bare 404, c, folder)
    | some .testStop =>
      if method = "POST" then
        let (result, c, folder) := c.testStop folder a
        (stopped result, c, folder)
      else (.bare 405, c, folder)
    | some p =>
      let page := if p = .health then health else status c workers
      if method = "GET" then (page, c, folder)
      else if method = "HEAD" then (page.headOnly, c, folder)
      else (.bare 405, c, folder)

end StatusPage

end LoadTest
