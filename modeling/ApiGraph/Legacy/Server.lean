import ApiGraph.Json.Basic
import ApiGraph.Url.Basic

/-!
# Legacy servers

Version 2.0 gives a host, a base path and a list of schemes; 3.0 gives a list of
URLs, one for each scheme. A candidate that is no URL is left out. Without a host the
base path alone is the server.
-/

namespace ApiGraph.Legacy

def server (url : String) : Json := .obj [("url", .str url)]

def dropTrailingSlashes (s : String) : String :=
  String.ofList ((s.toList.reverse.dropWhile (· = '/')).reverse)

/-- The declared schemes, or the secure one. -/
def schemes (doc : Fields) : List String :=
  let declared := ((doc.get? "schemes").map Json.strings).getD []
  if declared.isEmpty then ["https"] else declared

def servers (doc : Fields) : List Json :=
  let basePath := ((doc.get? "basePath").bind Json.str?).getD ""
  match (doc.get? "host").bind Json.str? with
  | none => if basePath = "" then [] else [server basePath]
  | some host =>
    (schemes doc).filterMap fun scheme =>
      (Url.normalize? (scheme ++ "://" ++ host ++ basePath)).map fun url =>
        server (dropTrailingSlashes url)

end ApiGraph.Legacy
