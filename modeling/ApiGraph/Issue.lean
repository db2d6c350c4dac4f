import ApiGraph.Json.Printer

/-!
# Issues

An issue is one finding of validation: a pointer to the value concerned, or to the
field that should be there, and a complaint about it.
-/

namespace ApiGraph

inductive Complaint where
  | missing (what : String)
  | mustBe (what : String)
  | notAnObject (subject : String)
  | unsupportedVersion (version : String)
  | invalidResponseKey (key : String)
  | optionalInPath
  | unknownCarrier (name : String)
  | unsupportedReference (pointer : String)
  | invalidType (found : Json)
  | invalidPattern (objection : String)
  deriving Inhabited, Repr

def Complaint.message : Complaint → String
  | .missing what => "required " ++ what ++ " is missing"
  | .mustBe what => "must be " ++ what
  | .notAnObject subject => subject ++ " must be an object"
  | .unsupportedVersion version => "unsupported version '" ++ version ++ "'"
  | .invalidResponseKey key => "invalid response key '" ++ key ++ "'"
  | .optionalInPath => "path parameters must be required"
  | .unknownCarrier name => "unknown parameter location '" ++ name ++ "'"
  | .unsupportedReference pointer => "unsupported reference '" ++ pointer ++ "'"
  | .invalidType found => "invalid type " ++ found.compact
  | .invalidPattern objection => "invalid regular expression: " ++ objection

structure Issue where
  pointer : String
  complaint : Complaint
  deriving Inhabited, Repr

def Issue.text (i : Issue) : String := i.pointer ++ ": " ++ i.complaint.message

end ApiGraph
