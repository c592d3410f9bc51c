import ClientBindings.Shared.TypesUnit

/-!
# ReleasesUnit — the source that lists the releases
-/

namespace ClientBindings
namespace Shared
namespace ReleasesUnit

/-- The whole source. -/
def template : List Piece :=
  [.hole (.name "licence"),
    .lines ["",
      ""],
    .text "package ",
    .hole (.name "java_package"),
    .lines [";",
      "",
      "/**",
      " * Releases of the API this SDK was generated from.",
      " */",
      "public enum APIVersion",
      "\x7b"],
    .each "release" (.name "releases") [
      .text "    ",
      .hole (memberOf "release" "name_uppercase"),
      .text "(\"",
      .hole (memberOf "release" "version"),
      .text "\", \"",
      .hole (memberOf "release" "branding"),
      .lines ["\"),"]],
    .lines ["    UNKNOWN(\"Unknown\", \"Unknown\");",
      "",
      "    private final String version;",
      "    private final String branding;",
      "",
      "    APIVersion(String version, String branding) \x7b",
      "        this.version = version;",
      "        this.branding = branding;",
      "    \x7d",
      "",
      "    public static APIVersion latest()",
      "    \x7b"],
    .choose (.name "releases")
      [.text "        return ",
       .hole (.member (.last (.name "releases")) "name_uppercase"),
       .lines [";"]]
      [.lines ["        return UNKNOWN;"]],
    .lines ["    \x7d",
      "",
      "    public static APIVersion fromMajorMinor(long major, long minor)",
      "    \x7b",
      "        String v = major + \".\" + minor;",
      "        for (APIVersion version : values()) \x7b",
      "            if (version.version.equals(v)) \x7b",
      "                return version;",
      "            \x7d",
      "        \x7d",
      "        return UNKNOWN;",
      "    \x7d",
      "",
      "    public String getBranding() \x7b",
      "        return branding;",
      "    \x7d",
      "",
      "    @Override",
      "    public String toString() \x7b",
      "        return version;",
      "    \x7d",
      "\x7d"]]

end ReleasesUnit
end Shared
end ClientBindings
