/-!
# Table: named characters, small letters f to m

The names of character references that begin with the small letters f to m, each with the
code points that it stands for. A few names may also be written without the
semicolon and are listed both ways.
-/

namespace Almanac.Html.Table

/-- Named characters that begin with the small letters f to m. -/
def smallFToM : List (String × List Nat) := [
  ("fallingdotseq;", [8786]), ("fcy;", [1092]), ("female;", [9792]), ("ffilig;", [64259]),
  ("fflig;", [64256]), ("ffllig;", [64260]), ("ffr;", [120099]), ("filig;", [64257]),
  ("fjlig;", [102, 106]), ("flat;", [9837]), ("fllig;", [64258]), ("fltns;", [9649]),
  ("fnof;", [402]), ("fopf;", [120151]), ("forall;", [8704]), ("fork;", [8916]),
  ("forkv;", [10969]), ("fpartint;", [10765]), ("frac12", [189]), ("frac12;", [189]),
  ("frac13;", [8531]), ("frac14", [188]), ("frac14;", [188]), ("frac15;", [8533]),
  ("frac16;", [8537]), ("frac18;", [8539]), ("frac23;", [8532]), ("frac25;", [8534]),
  ("frac34", [190]), ("frac34;", [190]), ("frac35;", [8535]), ("frac38;", [8540]),
  ("frac45;", [8536]), ("frac56;", [8538]), ("frac58;", [8541]), ("frac78;", [8542]),
  ("frasl;", [8260]), ("frown;", [8994]), ("fscr;", [119995]), ("gE;", [8807]), ("gEl;", [10892]),
  ("gacute;", [501]), ("gamma;", [947]), ("gammad;", [989]), ("gap;", [10886]),
  ("gbreve;", [287]), ("gcirc;", [285]), ("gcy;", [1075]), ("gdot;", [289]), ("ge;", [8805]),
  ("gel;", [8923]), ("geq;", [8805]), ("geqq;", [8807]), ("geqslant;", [10878]),
  ("ges;", [10878]), ("gescc;", [10921]), ("gesdot;", [10880]), ("gesdoto;", [10882]),
  ("gesdotol;", [10884]), ("gesl;", [8923, 65024]), ("gesles;", [10900]), ("gfr;", [120100]),
  ("gg;", [8811]), ("ggg;", [8921]), ("gimel;", [8503]), ("gjcy;", [1107]), ("gl;", [8823]),
  ("glE;", [10898]), ("gla;", [10917]), ("glj;", [10916]), ("gnE;", [8809]), ("gnap;", [10890]),
  ("gnapprox;", [10890]), ("gne;", [10888]), ("gneq;", [10888]), ("gneqq;", [8809]),
  ("gnsim;", [8935]), ("gopf;", [120152]), ("grave;", [96]), ("gscr;", [8458]), ("gsim;", [8819]),
  ("gsime;", [10894]), ("gsiml;", [10896]), ("gt", [62]), ("gt;", [62]), ("gtcc;", [10919]),
  ("gtcir;", [10874]), ("gtdot;", [8919]), ("gtlPar;", [10645]), ("gtquest;", [10876]),
  ("gtrapprox;", [10886]), ("gtrarr;", [10616]), ("gtrdot;", [8919]), ("gtreqless;", [8923]),
  ("gtreqqless;", [10892]), ("gtrless;", [8823]), ("gtrsim;", [8819]),
  ("gvertneqq;", [8809, 65024]), ("gvnE;", [8809, 65024]), ("hArr;", [8660]), ("hairsp;", [8202]),
  ("half;", [189]), ("hamilt;", [8459]), ("hardcy;", [1098]), ("harr;", [8596]),
  ("harrcir;", [10568]), ("harrw;", [8621]), ("hbar;", [8463]), ("hcirc;", [293]),
  ("hearts;", [9829]), ("heartsuit;", [9829]), ("hellip;", [8230]), ("hercon;", [8889]),
  ("hfr;", [120101]), ("hksearow;", [10533]), ("hkswarow;", [10534]), ("hoarr;", [8703]),
  ("homtht;", [8763]), ("hookleftarrow;", [8617]), ("hookrightarrow;", [8618]),
  ("hopf;", [120153]), ("horbar;", [8213]), ("hscr;", [119997]), ("hslash;", [8463]),
  ("hstrok;", [295]), ("hybull;", [8259]), ("hyphen;", [8208]), ("iacute", [237]),
  ("iacute;", [237]), ("ic;", [8291]), ("icirc", [238]), ("icirc;", [238]), ("icy;", [1080]),
  ("iecy;", [1077]), ("iexcl", [161]), ("iexcl;", [161]), ("iff;", [8660]), ("ifr;", [120102]),
  ("igrave", [236]), ("igrave;", [236]), ("ii;", [8520]), ("iiiint;", [10764]),
  ("iiint;", [8749]), ("iinfin;", [10716]), ("iiota;", [8489]), ("ijlig;", [307]),
  ("imacr;", [299]), ("image;", [8465]), ("imagline;", [8464]), ("imagpart;", [8465]),
  ("imath;", [305]), ("imof;", [8887]), ("imped;", [437]), ("in;", [8712]), ("incare;", [8453]),
  ("infin;", [8734]), ("infintie;", [10717]), ("inodot;", [305]), ("int;", [8747]),
  ("intcal;", [8890]), ("integers;", [8484]), ("intercal;", [8890]), ("intlarhk;", [10775]),
  ("intprod;", [10812]), ("iocy;", [1105]), ("iogon;", [303]), ("iopf;", [120154]),
  ("iota;", [953]), ("iprod;", [10812]), ("iquest", [191]), ("iquest;", [191]),
  ("iscr;", [119998]), ("isin;", [8712]), ("isinE;", [8953]), ("isindot;", [8949]),
  ("isins;", [8948]), ("isinsv;", [8947]), ("isinv;", [8712]), ("it;", [8290]),
  ("itilde;", [297]), ("iukcy;", [1110]), ("iuml", [239]), ("iuml;", [239]), ("jcirc;", [309]),
  ("jcy;", [1081]), ("jfr;", [120103]), ("jmath;", [567]), ("jopf;", [120155]),
  ("jscr;", [119999]), ("jsercy;", [1112]), ("jukcy;", [1108]), ("kappa;", [954]),
  ("kappav;", [1008]), ("kcedil;", [311]), ("kcy;", [1082]), ("kfr;", [120104]),
  ("kgreen;", [312]), ("khcy;", [1093]), ("kjcy;", [1116]), ("kopf;", [120156]),
  ("kscr;", [120000]), ("lAarr;", [8666]), ("lArr;", [8656]), ("lAtail;", [10523]),
  ("lBarr;", [10510]), ("lE;", [8806]), ("lEg;", [10891]), ("lHar;", [10594]), ("lacute;", [314]),
  ("laemptyv;", [10676]), ("lagran;", [8466]), ("lambda;", [955]), ("lang;", [10216]),
  ("langd;", [10641]), ("langle;", [10216]), ("lap;", [10885]), ("laquo", [171]),
  ("laquo;", [171]), ("larr;", [8592]), ("larrb;", [8676]), ("larrbfs;", [10527]),
  ("larrfs;", [10525]), ("larrhk;", [8617]), ("larrlp;", [8619]), ("larrpl;", [10553]),
  ("larrsim;", [10611]), ("larrtl;", [8610]), ("lat;", [10923]), ("latail;", [10521]),
  ("late;", [10925]), ("lates;", [10925, 65024]), ("lbarr;", [10508]), ("lbbrk;", [10098]),
  ("lbrace;", [123]), ("lbrack;", [91]), ("lbrke;", [10635]), ("lbrksld;", [10639]),
  ("lbrkslu;", [10637]), ("lcaron;", [318]), ("lcedil;", [316]), ("lceil;", [8968]),
  ("lcub;", [123]), ("lcy;", [1083]), ("ldca;", [10550]), ("ldquo;", [8220]), ("ldquor;", [8222]),
  ("ldrdhar;", [10599]), ("ldrushar;", [10571]), ("ldsh;", [8626]), ("le;", [8804]),
  ("leftarrow;", [8592]), ("leftarrowtail;", [8610]), ("leftharpoondown;", [8637]),
  ("leftharpoonup;", [8636]), ("leftleftarrows;", [8647]), ("leftrightarrow;", [8596]),
  ("leftrightarrows;", [8646]), ("leftrightharpoons;", [8651]), ("leftrightsquigarrow;", [8621]),
  ("leftthreetimes;", [8907]), ("leg;", [8922]), ("leq;", [8804]), ("leqq;", [8806]),
  ("leqslant;", [10877]), ("les;", [10877]), ("lescc;", [10920]), ("lesdot;", [10879]),
  ("lesdoto;", [10881]), ("lesdotor;", [10883]), ("lesg;", [8922, 65024]), ("lesges;", [10899]),
  ("lessapprox;", [10885]), ("lessdot;", [8918]), ("lesseqgtr;", [8922]),
  ("lesseqqgtr;", [10891]), ("lessgtr;", [8822]), ("lesssim;", [8818]), ("lfisht;", [10620]),
  ("lfloor;", [8970]), ("lfr;", [120105]), ("lg;", [8822]), ("lgE;", [10897]), ("lhard;", [8637]),
  ("lharu;", [8636]), ("lharul;", [10602]), ("lhblk;", [9604]), ("ljcy;", [1113]),
  ("ll;", [8810]), ("llarr;", [8647]), ("llcorner;", [8990]), ("llhard;", [10603]),
  ("lltri;", [9722]), ("lmidot;", [320]), ("lmoust;", [9136]), ("lmoustache;", [9136]),
  ("lnE;", [8808]), ("lnap;", [10889]), ("lnapprox;", [10889]), ("lne;", [10887]),
  ("lneq;", [10887]), ("lneqq;", [8808]), ("lnsim;", [8934]), ("loang;", [10220]),
  ("loarr;", [8701]), ("lobrk;", [10214]), ("longleftarrow;", [10229]),
  ("longleftrightarrow;", [10231]), ("longmapsto;", [10236]), ("longrightarrow;", [10230]),
  ("looparrowleft;", [8619]), ("looparrowright;", [8620]), ("lopar;", [10629]),
  ("lopf;", [120157]), ("loplus;", [10797]), ("lotimes;", [10804]), ("lowast;", [8727]),
  ("lowbar;", [95]), ("loz;", [9674]), ("lozenge;", [9674]), ("lozf;", [10731]), ("lpar;", [40]),
  ("lparlt;", [10643]), ("lrarr;", [8646]), ("lrcorner;", [8991]), ("lrhar;", [8651]),
  ("lrhard;", [10605]), ("lrm;", [8206]), ("lrtri;", [8895]), ("lsaquo;", [8249]),
  ("lscr;", [120001]), ("lsh;", [8624]), ("lsim;", [8818]), ("lsime;", [10893]),
  ("lsimg;", [10895]), ("lsqb;", [91]), ("lsquo;", [8216]), ("lsquor;", [8218]),
  ("lstrok;", [322]), ("lt", [60]), ("lt;", [60]), ("ltcc;", [10918]), ("ltcir;", [10873]),
  ("ltdot;", [8918]), ("lthree;", [8907]), ("ltimes;", [8905]), ("ltlarr;", [10614]),
  ("ltquest;", [10875]), ("ltrPar;", [10646]), ("ltri;", [9667]), ("ltrie;", [8884]),
  ("ltrif;", [9666]), ("lurdshar;", [10570]), ("luruhar;", [10598]),
  ("lvertneqq;", [8808, 65024]), ("lvnE;", [8808, 65024]), ("mDDot;", [8762]), ("macr", [175]),
  ("macr;", [175]), ("male;", [9794]), ("malt;", [10016]), ("maltese;", [10016]),
  ("map;", [8614]), ("mapsto;", [8614]), ("mapstodown;", [8615]), ("mapstoleft;", [8612]),
  ("mapstoup;", [8613]), ("marker;", [9646]), ("mcomma;", [10793]), ("mcy;", [1084]),
  ("mdash;", [8212]), ("measuredangle;", [8737]), ("mfr;", [120106]), ("mho;", [8487]),
  ("micro", [181]), ("micro;", [181]), ("mid;", [8739]), ("midast;", [42]), ("midcir;", [10992]),
  ("middot", [183]), ("middot;", [183]), ("minus;", [8722]), ("minusb;", [8863]),
  ("minusd;", [8760]), ("minusdu;", [10794]), ("mlcp;", [10971]), ("mldr;", [8230]),
  ("mnplus;", [8723]), ("models;", [8871]), ("mopf;", [120158]), ("mp;", [8723]),
  ("mscr;", [120002]), ("mstpos;", [8766]), ("mu;", [956]), ("multimap;", [8888]),
  ("mumap;", [8888])]

end Almanac.Html.Table
