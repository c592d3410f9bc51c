import ClientBindings.Disk
import ClientBindings.Shared.Template
import ClientBindings.Source.Settings

/-!
# Config — what a run is asked to do

* `TemplateEngine`, `Templates` — templates in a folder, and what becomes of their text;
* `Config` — output folder, package, header, overrides, templates, licence file;
* `Config.classDir`, `Config.resourcesDir` — where the sources and the licence go;
* `Config.settings` — what the sources of a schema depend on.
-/

namespace ClientBindings

/-- What fills in the templates of a folder: the text of the template of a name in a scope, or the
fault that filling it in ends with. -/
abbrev TemplateEngine := Disk → Path → String → Shared.Scope → Except Fault String

/-- Templates that stand in for the built-in ones. -/
structure Templates where
  folder : Path
  engine : TemplateEngine

structure Config where
  outputDir : Path
  package : String
  licenceHeader : String
  overrides : Overrides
  /-- The templates of the shared sources; without any they are built in. -/
  templates : Option Templates
  /-- The licence file that is copied to the output. -/
  licenceFile : Option Path
  /-- What is there before the run. -/
  given : Disk

namespace Config

def defaultPackage : String := "com.xensource.xenapi"

/-- Enumerations whose default is a member of their own. -/
def defaultOverrides : Overrides :=
  [("vif_locking_mode", "NETWORK_DEFAULT")]

def defaultHeader : String :=
  Text.joined "\n" [
    "/*",
    " * Copyright (c) Cloud Software Group, Inc.",
    " *",
    " * Redistribution and use in source and binary forms, with or without",
    " * modification, are permitted provided that the following conditions",
    " * are met:",
    " *",
    " *   1) Redistributions of source code must retain the above copyright",
    " *      notice, this list of conditions and the following disclaimer.",
    " *",
    " *   2) Redistributions in binary form must reproduce the above",
    " *      copyright notice, this list of conditions and the following",
    " *      disclaimer in the documentation and/or other materials",
    " *      provided with the distribution.",
    " *",
    " * THIS SOFTWARE IS PROVIDED BY THE COPYRIGHT HOLDERS AND CONTRIBUTORS",
    " * \"AS IS\" AND ANY EXPRESS OR IMPLIED WARRANTIES, INCLUDING, BUT NOT",
    " * LIMITED TO, THE IMPLIED WARRANTIES OF MERCHANTABILITY AND FITNESS",
    " * FOR A PARTICULAR PURPOSE ARE DISCLAIMED. IN NO EVENT SHALL THE",
    " * COPYRIGHT HOLDER OR CONTRIBUTORS BE LIABLE FOR ANY DIRECT,",
    " * INDIRECT, INCIDENTAL, SPECIAL, EXEMPLARY, OR CONSEQUENTIAL DAMAGES",
    " * (INCLUDING, BUT NOT LIMITED TO, PROCUREMENT OF SUBSTITUTE GOODS OR",
    " * SERVICES; LOSS OF USE, DATA, OR PROFITS; OR BUSINESS INTERRUPTION)",
    " * HOWEVER CAUSED AND ON ANY THEORY OF LIABILITY, WHETHER IN CONTRACT,",
    " * STRICT LIABILITY, OR TORT (INCLUDING NEGLIGENCE OR OTHERWISE)",
    " * ARISING IN ANY WAY OUT OF THE USE OF THIS SOFTWARE, EVEN IF ADVISED",
    " * OF THE POSSIBILITY OF SUCH DAMAGE.",
    " */"]

/-- Folder of a package: a component for each part of its name. -/
def packageDir (package : String) : Path :=
  ((package.toList.splitOn '.').map fun part => Path.ofText (.ofList part)).foldl Path.join
    .working

/-- Folder of the generated sources. -/
def classDir (c : Config) : Path :=
  c.outputDir.join (packageDir c.package)

def resourcesDir (c : Config) : Path :=
  c.outputDir.child "resources"

/-- What the sources of a schema depend on. -/
def settings (c : Config) (schema : Schema) : Settings where
  package := c.package
  licenceHeader := c.licenceHeader
  overrides := c.overrides
  releases := schema.releases

end Config
end ClientBindings
