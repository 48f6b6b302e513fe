import PageTokens.Data.Shape

/-!
# Requests

A page is rendered for a request. The request says which surface of the site it
is for, and carries a path and attributes that tokens may show.
-/

namespace PageTokens

/-- The part of a site that a request is for. -/
inductive Surface
  | frontend
  | admin
deriving DecidableEq, Repr

namespace Surface

/-- The name of a surface. -/
def name : Surface → Text
  | frontend => "frontend".toList
  | admin => "admin".toList

/-- Reads a surface by its name. -/
def reader : Reader Surface :=
  .choice name [frontend, admin]

end Surface

/-- What is known about the request that a page is rendered for. -/
structure Request where
  surface : Surface
  path : Option Text
  attributes : Dictionary Text Text
deriving DecidableEq

namespace Request

/-- A request for the frontend without path and attributes. -/
def plain : Request := ⟨.frontend, none, .empty⟩

/-- The value of an attribute. -/
def attribute? (request : Request) (key : Text) : Option Text :=
  request.attributes.get? key

/-- Whether a request is for the administrative surface. -/
def isAdmin (request : Request) : Bool :=
  request.surface = .admin

/-- Reads a request. Only its surface has to be there. -/
def reader : Reader Request :=
  .shape
    { title := "RequestContext".toList
      members := [
        .needed "surface".toList Surface.reader fun request surface =>
          { request with surface := surface },
        .optional "path".toList (.optional .text) fun request path => { request with path := path },
        .optional "attributes".toList (.dictionary .text) fun request attributes =>
          { request with attributes := attributes }]
      blank := plain
      surplus := .refused }

end Request
end PageTokens
