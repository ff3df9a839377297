import TestScaffold.Config.Basic
import TestScaffold.Text.Search
import TestScaffold.Url.Basic

namespace TestScaffold.Service

def chatAddress : Url :=
  { scheme := "https".toList, host := "api.openai.com".toList, path := "/v1/chat/completions".toList }

def messagesAddress : Url :=
  { scheme := "https".toList, host := "api.anthropic.com".toList, path := "/v1/messages".toList }

def completionsAddress (s : ServiceConfig) : Except UrlError Url := do
  Url.within {} (← Url.read s.endpoint)

def azureFolder (s : ServiceConfig) : Except UrlError Url := do
  let endpoint := (s.azureEndpoint.getD "").toList
  let folder ← Url.read (String.ofList (Text.dropEndWhile (· == '/') endpoint) ++ "/openai")
  folder.asFolder

def azureAddress (s : ServiceConfig) (folder : Url) : Except UrlError Url := do
  let chat := "/chat/completions"
  let path :=
    if Text.occursIn "/deployments".toList folder.path then chat
    else "/deployments/" ++ s.modelName ++ chat
  let address ← folder.within (← folder.within (← Url.read path))
  let version := s.azureApiVersion.toList
  address.withQuery
    (if version.isEmpty then none else some ("api-version=".toList ++ Url.formQuoted version))

end TestScaffold.Service
