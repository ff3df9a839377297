import TestScaffold.Json.Decode
import TestScaffold.Prompt.Requests

namespace TestScaffold.Prompt

open Decoder

def SourceRequest.decode : Decoder SourceRequest :=
  record fun ms =>
    SourceRequest.mk
      <$> field ms ["source"] string none
      <*> field ms ["failure"] string (some "")

def CodeTarget.decode : Decoder CodeTarget := oneOf [("ui", .interface), ("unit_body", .unitBody)]

def CodeRequest.decode : Decoder CodeRequest :=
  record fun ms =>
    CodeRequest.mk
      <$> field ms ["source"] string none
      <*> field ms ["target"] CodeTarget.decode (some .interface)
      <*> field ms ["unit_name"] (optional string) (some none)
      <*> field ms ["unit_type"] (optional string) (some none)
      <*> field ms ["failure"] string (some "")

end TestScaffold.Prompt
