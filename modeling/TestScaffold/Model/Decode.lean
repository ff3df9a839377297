import TestScaffold.Json.Decode
import TestScaffold.Model

namespace TestScaffold

open Decoder

def FactKind.decode : Decoder FactKind := oneOf (FactKind.all.map fun k => (k.name, k))

def Fact.decode : Decoder Fact :=
  record fun ms =>
    Fact.mk
      <$> field ms ["kind"] FactKind.decode none
      <*> field ms ["name", "label"] string none
      <*> field ms ["custom_kind"] (optional string) (some none)
      <*> field ms ["is_static", "isStatic"] bool (some false)
      <*> field ms ["identifier"] (optional string) (some none)
      <*> field ms ["modifiers"] (list string) (some [])
      <*> field ms ["has_action", "hasAction"] bool (some false)
      <*> field ms ["declared_type"] (optional string) (some none)
      <*> field ms ["parameters"] (optional string) (some none)
      <*> field ms ["position"] int (some (-1))

def DeclarationModel.decode : Decoder DeclarationModel :=
  record fun ms =>
    DeclarationModel.mk
      <$> field ms ["units"] (list Fact.decode) (some [])
      <*> field ms ["type_name"] (optional string) (some none)

def ViewModel.decode : Decoder ViewModel :=
  record fun ms =>
    ViewModel.mk
      <$> field ms ["name"] string none
      <*> field ms ["state_variables"] (table string) (some [])
      <*> field ms ["elements"] (list Fact.decode) (some [])
      <*> field ms ["is_navigation_container"] bool (some false)
      <*> field ms ["has_tab_container"] bool (some false)
      <*> field ms ["has_alert"] bool (some false)
      <*> field ms ["has_context_menu"] bool (some false)
      <*> field ms ["environment_objects"] (table string) (some [])
      <*> field ms ["raw_body"] string (some "")

end TestScaffold
