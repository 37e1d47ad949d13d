import Transducer.Json
import Transducer.Settings
import Transducer.Yaml.Node.Reader
import Transducer.Yaml.Scalar.Printer

/-!
Settings as a YAML file, a mapping of two sections. What the file does not set keeps its default,
names that are not known are passed over, and a value of the wrong kind makes the whole file
unreadable.

YAML is a large language, and how it is read and written can be chosen. The program takes the part
of it that this library knows.
-/

namespace Transducer

/-- How YAML is read and written. -/
structure Yaml.Dialect where
  /-- What a text says, if it can be read. -/
  node? : Word → Option Node
  /-- Writes a text as a scalar. -/
  write : Word → Word

/-- YAML without anchors, tags, directives and blocks of lines. A scalar that is not plain is
written between double quotes. -/
def Yaml.Dialect.basic : Dialect := ⟨Node.ofText?, Yaml.write⟩

namespace Yaml.Node

/-- Reads a truth value. Text between quotes is never one. -/
def bool? (n : Node) : Option Bool := do
  let w ← n.plain?
  if ["true", "True", "TRUE"].any (·.toList == w) then some true
  else if ["false", "False", "FALSE"].any (·.toList == w) then some false
  else none

def number? (n : Node) : Option Nat := n.plain?.bind Numeral.literal?

end Yaml.Node

namespace Settings

open Yaml

def runName : Word := "run".toList
def shellName : Word := "repl".toList
def historyName : Word := "history".toList
def lenientName : Word := "lenient".toList
def maxStepsName : Word := "max_steps".toList
def historyFileName : Word := "history_file".toList
def colorName : Word := "color".toList

def runOf? (d : RunSettings) (r : Record Node) : Option RunSettings := do
  return {
    history := ← r.read? historyName (some d.history) Node.bool?
    lenient := ← r.read? lenientName (some d.lenient) Node.bool?
    maxSteps := ← r.read? maxStepsName (some d.maxSteps) Node.number? }

def shellOf? (d : ShellSettings) (r : Record Node) : Option ShellSettings := do
  return {
    historyFile := ← r.read? historyFileName (some d.historyFile) Node.text?
    color := ← r.read? colorName (some d.color) Node.bool? }

/-- The settings that a file says, with defaults for what it does not set. -/
def ofNode? (defaults : Settings) (n : Node) : Option Settings := do
  let sections ← n.fields?
  return {
    run := ← runOf? defaults.run (← sections.read? runName (some []) Node.fields?)
    shell := ← shellOf? defaults.shell (← sections.read? shellName (some []) Node.fields?) }

def ofTextIn? (y : Dialect) (defaults : Settings) (text : Word) : Option Settings :=
  (y.node? text).bind (ofNode? defaults)

/-- Reads settings from a text. -/
def ofText? (defaults : Settings) (text : Word) : Option Settings :=
  ofTextIn? .basic defaults text

/-- A line that opens a section. -/
def sectionLine (name : Word) : Word := name ++ [':', '\n']

/-- A line that sets a value within a section. -/
def valueLine (name value : Word) : Word := ' ' :: ' ' :: name ++ ':' :: ' ' :: value ++ ['\n']

def toTextIn (y : Dialect) (s : Settings) : Word :=
  sectionLine runName ++
  valueLine historyName (Json.keyword s.run.history) ++
  valueLine lenientName (Json.keyword s.run.lenient) ++
  valueLine maxStepsName (Numeral.toWord s.run.maxSteps) ++
  sectionLine shellName ++
  valueLine historyFileName (y.write s.shell.historyFile) ++
  valueLine colorName (Json.keyword s.shell.color)

/-- Writes settings as a text that sets all of them. -/
def toText (s : Settings) : Word := s.toTextIn .basic

end Settings

end Transducer
