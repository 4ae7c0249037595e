/-!
# Table: named characters, small letters n to r

The names of character references that begin with the small letters n to r, each with the
code points that it stands for. A few names may also be written without the
semicolon and are listed both ways.
-/

namespace Almanac.Html.Table

/-- Named characters that begin with the small letters n to r. -/
def smallNToR : List (String × List Nat) := [
  ("nGg;", [8921, 824]), ("nGt;", [8811, 8402]), ("nGtv;", [8811, 824]), ("nLeftarrow;", [8653]),
  ("nLeftrightarrow;", [8654]), ("nLl;", [8920, 824]), ("nLt;", [8810, 8402]),
  ("nLtv;", [8810, 824]), ("nRightarrow;", [8655]), ("nVDash;", [8879]), ("nVdash;", [8878]),
  ("nabla;", [8711]), ("nacute;", [324]), ("nang;", [8736, 8402]), ("nap;", [8777]),
  ("napE;", [10864, 824]), ("napid;", [8779, 824]), ("napos;", [329]), ("napprox;", [8777]),
  ("natur;", [9838]), ("natural;", [9838]), ("naturals;", [8469]), ("nbsp", [160]),
  ("nbsp;", [160]), ("nbump;", [8782, 824]), ("nbumpe;", [8783, 824]), ("ncap;", [10819]),
  ("ncaron;", [328]), ("ncedil;", [326]), ("ncong;", [8775]), ("ncongdot;", [10861, 824]),
  ("ncup;", [10818]), ("ncy;", [1085]), ("ndash;", [8211]), ("ne;", [8800]), ("neArr;", [8663]),
  ("nearhk;", [10532]), ("nearr;", [8599]), ("nearrow;", [8599]), ("nedot;", [8784, 824]),
  ("nequiv;", [8802]), ("nesear;", [10536]), ("nesim;", [8770, 824]), ("nexist;", [8708]),
  ("nexists;", [8708]), ("nfr;", [120107]), ("ngE;", [8807, 824]), ("nge;", [8817]),
  ("ngeq;", [8817]), ("ngeqq;", [8807, 824]), ("ngeqslant;", [10878, 824]),
  ("nges;", [10878, 824]), ("ngsim;", [8821]), ("ngt;", [8815]), ("ngtr;", [8815]),
  ("nhArr;", [8654]), ("nharr;", [8622]), ("nhpar;", [10994]), ("ni;", [8715]), ("nis;", [8956]),
  ("nisd;", [8954]), ("niv;", [8715]), ("njcy;", [1114]), ("nlArr;", [8653]),
  ("nlE;", [8806, 824]), ("nlarr;", [8602]), ("nldr;", [8229]), ("nle;", [8816]),
  ("nleftarrow;", [8602]), ("nleftrightarrow;", [8622]), ("nleq;", [8816]),
  ("nleqq;", [8806, 824]), ("nleqslant;", [10877, 824]), ("nles;", [10877, 824]),
  ("nless;", [8814]), ("nlsim;", [8820]), ("nlt;", [8814]), ("nltri;", [8938]),
  ("nltrie;", [8940]), ("nmid;", [8740]), ("nopf;", [120159]), ("not", [172]), ("not;", [172]),
  ("notin;", [8713]), ("notinE;", [8953, 824]), ("notindot;", [8949, 824]), ("notinva;", [8713]),
  ("notinvb;", [8951]), ("notinvc;", [8950]), ("notni;", [8716]), ("notniva;", [8716]),
  ("notnivb;", [8958]), ("notnivc;", [8957]), ("npar;", [8742]), ("nparallel;", [8742]),
  ("nparsl;", [11005, 8421]), ("npart;", [8706, 824]), ("npolint;", [10772]), ("npr;", [8832]),
  ("nprcue;", [8928]), ("npre;", [10927, 824]), ("nprec;", [8832]), ("npreceq;", [10927, 824]),
  ("nrArr;", [8655]), ("nrarr;", [8603]), ("nrarrc;", [10547, 824]), ("nrarrw;", [8605, 824]),
  ("nrightarrow;", [8603]), ("nrtri;", [8939]), ("nrtrie;", [8941]), ("nsc;", [8833]),
  ("nsccue;", [8929]), ("nsce;", [10928, 824]), ("nscr;", [120003]), ("nshortmid;", [8740]),
  ("nshortparallel;", [8742]), ("nsim;", [8769]), ("nsime;", [8772]), ("nsimeq;", [8772]),
  ("nsmid;", [8740]), ("nspar;", [8742]), ("nsqsube;", [8930]), ("nsqsupe;", [8931]),
  ("nsub;", [8836]), ("nsubE;", [10949, 824]), ("nsube;", [8840]), ("nsubset;", [8834, 8402]),
  ("nsubseteq;", [8840]), ("nsubseteqq;", [10949, 824]), ("nsucc;", [8833]),
  ("nsucceq;", [10928, 824]), ("nsup;", [8837]), ("nsupE;", [10950, 824]), ("nsupe;", [8841]),
  ("nsupset;", [8835, 8402]), ("nsupseteq;", [8841]), ("nsupseteqq;", [10950, 824]),
  ("ntgl;", [8825]), ("ntilde", [241]), ("ntilde;", [241]), ("ntlg;", [8824]),
  ("ntriangleleft;", [8938]), ("ntrianglelefteq;", [8940]), ("ntriangleright;", [8939]),
  ("ntrianglerighteq;", [8941]), ("nu;", [957]), ("num;", [35]), ("numero;", [8470]),
  ("numsp;", [8199]), ("nvDash;", [8877]), ("nvHarr;", [10500]), ("nvap;", [8781, 8402]),
  ("nvdash;", [8876]), ("nvge;", [8805, 8402]), ("nvgt;", [62, 8402]), ("nvinfin;", [10718]),
  ("nvlArr;", [10498]), ("nvle;", [8804, 8402]), ("nvlt;", [60, 8402]),
  ("nvltrie;", [8884, 8402]), ("nvrArr;", [10499]), ("nvrtrie;", [8885, 8402]),
  ("nvsim;", [8764, 8402]), ("nwArr;", [8662]), ("nwarhk;", [10531]), ("nwarr;", [8598]),
  ("nwarrow;", [8598]), ("nwnear;", [10535]), ("oS;", [9416]), ("oacute", [243]),
  ("oacute;", [243]), ("oast;", [8859]), ("ocir;", [8858]), ("ocirc", [244]), ("ocirc;", [244]),
  ("ocy;", [1086]), ("odash;", [8861]), ("odblac;", [337]), ("odiv;", [10808]), ("odot;", [8857]),
  ("odsold;", [10684]), ("oelig;", [339]), ("ofcir;", [10687]), ("ofr;", [120108]),
  ("ogon;", [731]), ("ograve", [242]), ("ograve;", [242]), ("ogt;", [10689]), ("ohbar;", [10677]),
  ("ohm;", [937]), ("oint;", [8750]), ("olarr;", [8634]), ("olcir;", [10686]),
  ("olcross;", [10683]), ("oline;", [8254]), ("olt;", [10688]), ("omacr;", [333]),
  ("omega;", [969]), ("omicron;", [959]), ("omid;", [10678]), ("ominus;", [8854]),
  ("oopf;", [120160]), ("opar;", [10679]), ("operp;", [10681]), ("oplus;", [8853]),
  ("or;", [8744]), ("orarr;", [8635]), ("ord;", [10845]), ("order;", [8500]),
  ("orderof;", [8500]), ("ordf", [170]), ("ordf;", [170]), ("ordm", [186]), ("ordm;", [186]),
  ("origof;", [8886]), ("oror;", [10838]), ("orslope;", [10839]), ("orv;", [10843]),
  ("oscr;", [8500]), ("oslash", [248]), ("oslash;", [248]), ("osol;", [8856]), ("otilde", [245]),
  ("otilde;", [245]), ("otimes;", [8855]), ("otimesas;", [10806]), ("ouml", [246]),
  ("ouml;", [246]), ("ovbar;", [9021]), ("par;", [8741]), ("para", [182]), ("para;", [182]),
  ("parallel;", [8741]), ("parsim;", [10995]), ("parsl;", [11005]), ("part;", [8706]),
  ("pcy;", [1087]), ("percnt;", [37]), ("period;", [46]), ("permil;", [8240]), ("perp;", [8869]),
  ("pertenk;", [8241]), ("pfr;", [120109]), ("phi;", [966]), ("phiv;", [981]),
  ("phmmat;", [8499]), ("phone;", [9742]), ("pi;", [960]), ("pitchfork;", [8916]),
  ("piv;", [982]), ("planck;", [8463]), ("planckh;", [8462]), ("plankv;", [8463]),
  ("plus;", [43]), ("plusacir;", [10787]), ("plusb;", [8862]), ("pluscir;", [10786]),
  ("plusdo;", [8724]), ("plusdu;", [10789]), ("pluse;", [10866]), ("plusmn", [177]),
  ("plusmn;", [177]), ("plussim;", [10790]), ("plustwo;", [10791]), ("pm;", [177]),
  ("pointint;", [10773]), ("popf;", [120161]), ("pound", [163]), ("pound;", [163]),
  ("pr;", [8826]), ("prE;", [10931]), ("prap;", [10935]), ("prcue;", [8828]), ("pre;", [10927]),
  ("prec;", [8826]), ("precapprox;", [10935]), ("preccurlyeq;", [8828]), ("preceq;", [10927]),
  ("precnapprox;", [10937]), ("precneqq;", [10933]), ("precnsim;", [8936]), ("precsim;", [8830]),
  ("prime;", [8242]), ("primes;", [8473]), ("prnE;", [10933]), ("prnap;", [10937]),
  ("prnsim;", [8936]), ("prod;", [8719]), ("profalar;", [9006]), ("profline;", [8978]),
  ("profsurf;", [8979]), ("prop;", [8733]), ("propto;", [8733]), ("prsim;", [8830]),
  ("prurel;", [8880]), ("pscr;", [120005]), ("psi;", [968]), ("puncsp;", [8200]),
  ("qfr;", [120110]), ("qint;", [10764]), ("qopf;", [120162]), ("qprime;", [8279]),
  ("qscr;", [120006]), ("quaternions;", [8461]), ("quatint;", [10774]), ("quest;", [63]),
  ("questeq;", [8799]), ("quot", [34]), ("quot;", [34]), ("rAarr;", [8667]), ("rArr;", [8658]),
  ("rAtail;", [10524]), ("rBarr;", [10511]), ("rHar;", [10596]), ("race;", [8765, 817]),
  ("racute;", [341]), ("radic;", [8730]), ("raemptyv;", [10675]), ("rang;", [10217]),
  ("rangd;", [10642]), ("range;", [10661]), ("rangle;", [10217]), ("raquo", [187]),
  ("raquo;", [187]), ("rarr;", [8594]), ("rarrap;", [10613]), ("rarrb;", [8677]),
  ("rarrbfs;", [10528]), ("rarrc;", [10547]), ("rarrfs;", [10526]), ("rarrhk;", [8618]),
  ("rarrlp;", [8620]), ("rarrpl;", [10565]), ("rarrsim;", [10612]), ("rarrtl;", [8611]),
  ("rarrw;", [8605]), ("ratail;", [10522]), ("ratio;", [8758]), ("rationals;", [8474]),
  ("rbarr;", [10509]), ("rbbrk;", [10099]), ("rbrace;", [125]), ("rbrack;", [93]),
  ("rbrke;", [10636]), ("rbrksld;", [10638]), ("rbrkslu;", [10640]), ("rcaron;", [345]),
  ("rcedil;", [343]), ("rceil;", [8969]), ("rcub;", [125]), ("rcy;", [1088]), ("rdca;", [10551]),
  ("rdldhar;", [10601]), ("rdquo;", [8221]), ("rdquor;", [8221]), ("rdsh;", [8627]),
  ("real;", [8476]), ("realine;", [8475]), ("realpart;", [8476]), ("reals;", [8477]),
  ("rect;", [9645]), ("reg", [174]), ("reg;", [174]), ("rfisht;", [10621]), ("rfloor;", [8971]),
  ("rfr;", [120111]), ("rhard;", [8641]), ("rharu;", [8640]), ("rharul;", [10604]),
  ("rho;", [961]), ("rhov;", [1009]), ("rightarrow;", [8594]), ("rightarrowtail;", [8611]),
  ("rightharpoondown;", [8641]), ("rightharpoonup;", [8640]), ("rightleftarrows;", [8644]),
  ("rightleftharpoons;", [8652]), ("rightrightarrows;", [8649]), ("rightsquigarrow;", [8605]),
  ("rightthreetimes;", [8908]), ("ring;", [730]), ("risingdotseq;", [8787]), ("rlarr;", [8644]),
  ("rlhar;", [8652]), ("rlm;", [8207]), ("rmoust;", [9137]), ("rmoustache;", [9137]),
  ("rnmid;", [10990]), ("roang;", [10221]), ("roarr;", [8702]), ("robrk;", [10215]),
  ("ropar;", [10630]), ("ropf;", [120163]), ("roplus;", [10798]), ("rotimes;", [10805]),
  ("rpar;", [41]), ("rpargt;", [10644]), ("rppolint;", [10770]), ("rrarr;", [8649]),
  ("rsaquo;", [8250]), ("rscr;", [120007]), ("rsh;", [8625]), ("rsqb;", [93]), ("rsquo;", [8217]),
  ("rsquor;", [8217]), ("rthree;", [8908]), ("rtimes;", [8906]), ("rtri;", [9657]),
  ("rtrie;", [8885]), ("rtrif;", [9656]), ("rtriltri;", [10702]), ("ruluhar;", [10600]),
  ("rx;", [8478])]

end Almanac.Html.Table
