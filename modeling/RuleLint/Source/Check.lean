import RuleLint.Diagnostic
import RuleLint.FileTree.Basic
import RuleLint.Reachability
import RuleLint.Profile.Basic
import RuleLint.Source.Basic
import RuleLint.Source.Trust
import RuleLint.Url.Basic

namespace RuleLint.Source

structure Checker where
  tree : FileTree
  root : Path
  trust : Trust
  /-- Whom to ask whether a URL answers; without a prober nobody is asked. -/
  prober : Option Prober := none
  policy : ReachabilityPolicy := .skip

namespace Checker

def sourceError (file : String) (r : RuleSet) (said : String) : Diagnostic :=
  (Diagnostic.error .source ("rule-set '" ++ r.name ++ "': " ++ said)).onLine file r.line

/-- Why a URL does not answer, if the policy wants to know. -/
def unreachable? (c : Checker) (url : String) (log : ProbeLog) : Option String × ProbeLog :=
  match c.policy, c.prober with
  | .skip, _ | _, none => (none, log)
  | _, some prober => log.ask prober url

def unreachableDiagnostic (c : Checker) (file : String) (r : RuleSet) (url reason : String) :
    Diagnostic :=
  let message := "rule-set '" ++ r.name ++ "': " ++ url ++ " is unreachable: " ++ reason
  (match c.policy with
    | .fail => Diagnostic.error .source message
    | .warn | .skip => (Diagnostic.warn message).withKind .reachability).onLine file r.line

/-- Checks a remote source. A URL that is malformed or not HTTPS is not looked at any further. -/
def checkRemote (c : Checker) (file : String) (r : RuleSet) (url : String) (log : ProbeLog) :
    List Diagnostic × ProbeLog :=
  match Url.ofText url with
  | .error e => ([sourceError file r ("malformed URL '" ++ url ++ "': " ++ e.message)], log)
  | .ok u =>
    if u.scheme = "https".toList then
      let (reason, log) := c.unreachable? url log
      ((reason.map (c.unreachableDiagnostic file r url)).toList ++
        (if c.trust.trusts u.text then [] else [sourceError file r ("untrusted source " ++ url)]),
        log)
    else ([sourceError file r ("non-HTTPS scheme '" ++ .ofList u.scheme ++ "' in " ++ url)], log)

def checkFile (c : Checker) (file : String) (r : RuleSet) (path : String) : List Diagnostic :=
  let p : Path := ⟨path⟩
  if path = "" || ! p.goesDown then
    [sourceError file r ("local source '" ++ path ++ "' must be a path relative to the root")]
  else if c.tree.isFile (c.root.join p) then []
  else [sourceError file r ("local file not found: " ++ (c.root.join p).text)]

def check (c : Checker) (file : String) (r : RuleSet) (log : ProbeLog) :
    List Diagnostic × ProbeLog :=
  match Source.ofText r.source with
  | .builtin => ([], log)
  | .remote url => c.checkRemote file r url log
  | .file path => (c.checkFile file r path, log)

def checkAll (c : Checker) (file : String) (log : ProbeLog) : List RuleSet →
    List Diagnostic × ProbeLog
  | [] => ([], log)
  | r :: rest =>
    let (found, log) := c.check file r log
    let (others, log) := c.checkAll file log rest
    (found ++ others, log)

end Checker

end RuleLint.Source
