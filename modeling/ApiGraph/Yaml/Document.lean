import ApiGraph.Yaml.Tree

/-!
# Documents from text

A description is written in YAML, of which JSON is a part. Reading fails where the
text is no YAML, or where its value has no JSON form.
-/

namespace ApiGraph

def decodeDocument (text : String) : Except Fault Json :=
  match Yaml.ofText? text with
  | some y => y.toJson.mapError .unreadable
  | none => .error (.unreadable .notYaml)

end ApiGraph
